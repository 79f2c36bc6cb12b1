import Mathlib.Data.List.Basic
import MetricLayer.Service.Lookup

/-!
# Lookups that succeed

Steps of the service change a state and may fail. It is said of a step that it gives a result
from the states of one kind in states of another kind; steps are put together from what is said
of their parts. With a target database that answers every catalog query in the same way, every
lookup gives that answer, whether it is remembered or asked for.
-/
namespace MetricLayer.Service

variable {σ α β : Type}

/-- How a step is run after another one. -/
lemma run_bind (x : ExceptT Fault (StateM σ) α) (f : α → ExceptT Fault (StateM σ) β) (s : σ) :
    (x >>= f) s = ExceptT.bindCont f (x s).1 (x s).2 := rfl

lemma run_bind_ok {x : ExceptT Fault (StateM σ) α} {f : α → ExceptT Fault (StateM σ) β}
    {s s' : σ} {a : α} (h : x s = (.ok a, s')) : (x >>= f) s = f a s' := by
  rw [run_bind, h]
  rfl

lemma run_bind_error {x : ExceptT Fault (StateM σ) α} {f : α → ExceptT Fault (StateM σ) β}
    {s s' : σ} {e : Fault} (h : x s = (.error e, s')) : (x >>= f) s = (.error e, s') := by
  rw [run_bind, h]
  rfl

/-- The steps of a run that succeeds. -/
lemma run_bind_inv {x : ExceptT Fault (StateM σ) α} {f : α → ExceptT Fault (StateM σ) β}
    {s : σ} {b : β} (h : ((x >>= f) s).1 = .ok b) :
    ∃ a s', x s = (.ok a, s') ∧ (f a s').1 = .ok b := by
  rw [run_bind] at h
  cases hx : (x s).1 with
  | error e =>
    rw [hx] at h
    cases h
  | ok a =>
    rw [hx] at h
    exact ⟨a, (x s).2, Prod.ext hx rfl, h⟩

/-- A step whose outcome is looked at does not fail. -/
lemma run_outcome (x : LookupM α) (u : Session) : outcome x u = (.ok (x u).1, (x u).2) := rfl

/-! ### Steps that succeed -/

/-- From the states of one kind, a step gives a result in states of another kind. -/
def Gives (I : σ → Prop) (x : ExceptT Fault (StateM σ) α) (a : α) (J : σ → Prop) : Prop :=
  ∀ s, I s → ∃ s', x s = (.ok a, s') ∧ J s'

namespace Gives

variable {I J K : σ → Prop} {a : α} {b : β}

theorem pure (h : ∀ s, I s → J s) : Gives I (Pure.pure a) a J :=
  fun s hs => ⟨s, rfl, h s hs⟩

theorem bind {x : ExceptT Fault (StateM σ) α} {f : α → ExceptT Fault (StateM σ) β}
    (hx : Gives I x a J) (hf : Gives J (f a) b K) : Gives I (x >>= f) b K := by
  intro s hs
  obtain ⟨s₁, hs₁, hJ⟩ := hx s hs
  obtain ⟨s₂, hs₂, hK⟩ := hf s₁ hJ
  refine ⟨s₂, ?_, hK⟩
  rw [run_bind, hs₁]
  exact hs₂

/-- What is said of every single state is said of all of them. -/
theorem of_each {x : ExceptT Fault (StateM σ) α} (h : ∀ s, I s → Gives (· = s) x a J) :
    Gives I x a J :=
  fun s hs => h s hs s rfl

theorem at_state {x : ExceptT Fault (StateM σ) α} (h : Gives I x a J) {s : σ} (hs : I s) :
    Gives (· = s) x a J := by
  intro s' heq
  rw [heq]
  exact h s hs

theorem mono {I' J' : σ → Prop} {x : ExceptT Fault (StateM σ) α} (h : Gives I x a J)
    (hI : ∀ s, I' s → I s) (hJ : ∀ s, J s → J' s) : Gives I' x a J' := by
  intro s hs
  obtain ⟨s', hs', hJs⟩ := h s (hI s hs)
  exact ⟨s', hs', hJ s' hJs⟩

theorem adapt {x : ExceptT Fault (StateM σ) α} (h : Gives I x a J) (f : Fault → Fault) :
    Gives I (ExceptT.adapt f x) a J := by
  intro s hs
  obtain ⟨s', hs', hJ⟩ := h s hs
  refine ⟨s', ?_, hJ⟩
  have hrun : ExceptT.adapt f x s = ((x s).1.mapError f, (x s).2) := rfl
  rw [hrun, hs']
  rfl

theorem outcome {I J : Session → Prop} {x : LookupM α} (h : Gives I x a J) :
    Gives I (Service.outcome x) (.ok a) J := by
  intro s hs
  obtain ⟨s', hs', hJ⟩ := h s hs
  refine ⟨s', ?_, hJ⟩
  rw [run_outcome, hs']

theorem remembered {I : Session → Prop} {f : Memo → α} (h : ∀ s, I s → f s.memo = a) :
    Gives I (Service.remembered f) a I := by
  intro s hs
  refine ⟨s, ?_, hs⟩
  rw [← h s hs]
  rfl

/-- A step of the service leaves the memory of a request as it is. -/
theorem within {I J : World → Prop} {x : ServiceM α} (h : Gives I x a J) (P : Memo → Prop) :
    Gives (fun s => I s.world ∧ P s.memo) (Service.within x) a
      (fun s => J s.world ∧ P s.memo) := by
  rintro s ⟨hI, hP⟩
  obtain ⟨w, hw, hJ⟩ := h s.world hI
  refine ⟨{ s with world := w }, ?_, hJ, hP⟩
  unfold Service.within
  rw [hw]

end Gives

/-! ### Steps that change nothing -/

/-- Whatever becomes of a step, the world stays as it is. -/
def Still (x : ServiceM α) : Prop := ∀ w, (x w).2 = w

namespace Still

theorem bind {x : ServiceM α} {f : α → ServiceM β} (hx : Still x) (hf : ∀ a, Still (f a)) :
    Still (x >>= f) := by
  intro w
  rw [run_bind]
  cases hr : (x w).1 with
  | error e => exact hx w
  | ok a =>
    rw [hx w]
    exact hf a w

theorem connectionFor (id : Int) (user : Option Int) : Still (Service.connectionFor id user) := by
  refine .bind (fun _ => rfl) fun found => ?_
  cases found with
  | none => exact fun _ => rfl
  | some c =>
    dsimp only
    split
    · split <;> exact fun _ => rfl
    · exact fun _ => rfl

end Still

/-! ### Steps that leave store and target as they are -/

/-- Whatever becomes of a step, the store and the target database stay as they are. -/
def Quiet (x : ServiceM α) : Prop :=
  ∀ w, (x w).2.store = w.store ∧ (x w).2.target = w.target

namespace Quiet

theorem of_world {x : ServiceM α} (h : ∀ w, (x w).2 = w) : Quiet x := by
  intro w
  rw [h]
  exact ⟨rfl, rfl⟩

theorem bind {x : ServiceM α} {f : α → ServiceM β} (hx : Quiet x) (hf : ∀ a, Quiet (f a)) :
    Quiet (x >>= f) := by
  intro w
  rw [run_bind]
  cases hr : (x w).1 with
  | error e => exact hx w
  | ok a =>
    obtain ⟨hstore, htarget⟩ := hf a (x w).2
    exact ⟨hstore.trans (hx w).1, htarget.trans (hx w).2⟩

theorem ask (answer : Target → Nat → α) : Quiet (Service.ask answer) :=
  fun _ => ⟨rfl, rfl⟩

theorem checkOut (engine : Nat) (c : Connection) (d : Dialect) :
    Quiet (Service.checkOut engine c d) :=
  fun _ => ⟨rfl, rfl⟩

theorem holding (engine : Nat) {x : ServiceM α} (h : Quiet x) :
    Quiet (Service.holding engine x) :=
  fun w => h { w with leases := engine :: w.leases }

theorem connectionFor (id : Int) (user : Option Int) : Quiet (Service.connectionFor id user) :=
  of_world (Still.connectionFor id user)

theorem createPool (c : Connection) : Quiet (Service.createPool c) := by
  refine .bind (of_world fun _ => rfl) fun d => .bind (ask _) fun failed => ?_
  cases failed with
  | some e => exact of_world fun _ => rfl
  | none =>
    refine .bind (fun _ => ⟨rfl, rfl⟩) fun engine => .bind ?_ fun failed => ?_
    · refine .bind (checkOut _ _ _) fun refused => ?_
      cases refused with
      | some e => exact of_world fun _ => rfl
      | none => exact .holding engine (.bind (fun _ => ⟨rfl, rfl⟩) fun _ => ask _)
    · cases failed with
      | none => exact of_world fun _ => rfl
      | some e => exact .bind (fun _ => ⟨rfl, rfl⟩) fun _ => of_world fun _ => rfl

theorem acquire (id : Int) (user : Option Int) : Quiet (Service.acquire id user) := by
  refine .bind (connectionFor id user) fun c => .bind (of_world fun _ => rfl) fun known => ?_
  cases known with
  | some p => exact of_world fun _ => rfl
  | none =>
    refine .bind (createPool c) fun p => .bind (fun _ => ⟨rfl, rfl⟩) fun _ => ?_
    exact of_world fun _ => rfl

end Quiet

/-! ### Catalog queries -/

/-- A world with a given store whose target database lends connections and answers every query
for columns alike. -/
structure Serving (schema : Option String) (g : String → List String) (store : Store)
    (w : World) : Prop where
  store : w.store = store
  connect : ∀ tick, w.target.connect tick = none
  columns : ∀ tick t, w.target.columns tick schema t = .ok (g t)

section
variable {schema : Option String} {g : String → List String} {store : Store}

lemma Serving.of_eq {w w' : World} (h : Serving schema g store w)
    (hstore : w'.store = w.store) (htarget : w'.target = w.target) :
    Serving schema g store w' :=
  ⟨hstore.trans h.store, htarget ▸ h.connect, htarget ▸ h.columns⟩

lemma gives_ask {answer : Target → Nat → α} {a : α}
    (h : ∀ w, Serving schema g store w → answer w.target w.tick = a) :
    Gives (Serving schema g store) (ask answer) a (Serving schema g store) := by
  intro w hw
  refine ⟨{ w with tick := w.tick + 1 }, ?_, hw.of_eq rfl rfl⟩
  unfold ask
  rw [h w hw]

lemma gives_checkOut (engine : Nat) (c : Connection) (d : Dialect) :
    Gives (Serving schema g store) (checkOut engine c d) none (Serving schema g store) := by
  intro w hw
  refine ⟨w.taken engine c d, ?_, hw.of_eq rfl rfl⟩
  unfold checkOut
  rw [hw.connect]

/-- A step that succeeds succeeds with a connection from the pool. -/
lemma gives_lease {step : ServiceM α} {a : α} (p : Pool)
    (h : Gives (Serving schema g store) step a (Serving schema g store)) :
    Gives (Serving schema g store) (lease p step) a (Serving schema g store) := by
  refine .bind (gives_checkOut _ _ _) ?_
  intro w hw
  obtain ⟨w', hw', hserving⟩ := h { w with leases := p.engine :: w.leases } (hw.of_eq rfl rfl)
  refine ⟨{ w' with leases := w'.leases.erase p.engine }, ?_, hserving.of_eq rfl rfl⟩
  dsimp only
  unfold holding
  rw [hw']

lemma gives_columnsQuery (p : Pool) (t : String) :
    Gives (Serving p.schema g store)
      (catalogQuery p (some t) (.columns p.schema t) fun target tick =>
        target.columns tick p.schema t)
      (g t) (Serving p.schema g store) := by
  refine .adapt (gives_lease p ?_) _
  refine .bind (a := ()) (J := Serving p.schema g store) ?_ ?_
  · exact fun w hw => ⟨_, rfl, hw.of_eq rfl rfl⟩
  · exact .bind (gives_ask fun w hw => hw.columns w.tick t) (.pure fun _ h => h)

end

/-! ### Lookups of one request -/

/-- A request whose pool is known, and that remembers only what the target answers. -/
structure Answering (p : Pool) (g : String → List String) (store : Store) (s : Session) :
    Prop where
  serving : Serving p.schema g store s.world
  pool : s.memo.pool = some p
  columns : ∀ e ∈ s.memo.columns, e.2 = g e.1

/-- A request that has not looked anything up yet, and that can take its pool. -/
structure Fresh (a : Asker) (p : Pool) (g : String → List String) (store : Store)
    (s : Session) : Prop where
  serving : Serving p.schema g store s.world
  pool : (acquire a.connectionId a.user s.world).1 = .ok p
  memo : s.memo = {}

section
variable {a : Asker} {p : Pool} {g : String → List String} {store : Store}

lemma gives_lookupPool_fresh :
    Gives (Fresh a p g store) (lookupPool a) p (Answering p g store) := by
  refine .bind (.remembered fun s hs => congrArg Memo.pool hs.memo) ?_
  refine .bind (a := p) (J := fun s => Serving p.schema g store s.world ∧ s.memo = {}) ?_ ?_
  · intro s hs
    obtain ⟨hstore, htarget⟩ := Quiet.acquire a.connectionId a.user s.world
    have hrun : within (acquire a.connectionId a.user) s =
        ((acquire a.connectionId a.user s.world).1,
          { s with world := (acquire a.connectionId a.user s.world).2 }) := rfl
    rw [hrun, hs.pool]
    exact ⟨_, rfl, hs.serving.of_eq hstore htarget, hs.memo⟩
  · refine .bind (a := ()) (J := Answering p g store) ?_ (.pure fun _ h => h)
    rintro s ⟨hserving, hmemo⟩
    refine ⟨_, rfl, hserving, rfl, ?_⟩
    simp [hmemo]

lemma gives_lookupPool :
    Gives (Answering p g store) (lookupPool a) p (Answering p g store) :=
  .bind (.remembered fun _ hs => hs.pool) (.pure fun _ h => h)

/-- A table that is not remembered is asked for, and remembered from then on. -/
lemma gives_columns_asked {I : Session → Prop}
    (hpool : Gives I (lookupPool a) p (Answering p g store)) (t : String) :
    Gives I (do
        let p ← lookupPool a
        let names ← within (catalogQuery p (some t) (.columns p.schema t)
          fun target tick => target.columns tick p.schema t)
        remember fun m => { m with columns := m.columns ++ [(t, names)] }
        return names) (g t) (Answering p g store) := by
  refine .bind hpool (.bind (a := g t) (J := Answering p g store) ?_ ?_)
  · intro s hs
    obtain ⟨s', hs', hserving, hpool, hcolumns⟩ := (gives_columnsQuery p t).within
      (fun m => m.pool = some p ∧ ∀ e ∈ m.columns, e.2 = g e.1) s
      ⟨hs.serving, hs.pool, hs.columns⟩
    exact ⟨s', hs', hserving, hpool, hcolumns⟩
  · refine .bind (a := ()) (J := Answering p g store) ?_ (.pure fun _ h => h)
    intro s hs
    refine ⟨_, rfl, hs.serving, hs.pool, ?_⟩
    intro e he
    rcases List.mem_append.mp he with he | he
    · exact hs.columns e he
    · rw [List.mem_singleton.mp he]

lemma gives_columns_fresh (t : String) :
    Gives (Fresh a p g store) (columns a t) (g t) (Answering p g store) :=
  .bind (.remembered fun s hs => by rw [hs.memo])
    (gives_columns_asked gives_lookupPool_fresh t)

lemma gives_columns (t : String) :
    Gives (Answering p g store) (columns a t) (g t) (Answering p g store) := by
  refine .of_each fun s hs => ?_
  refine .bind (.remembered (a := s.memo.columns.find? (·.1 == t)) fun _ heq => by rw [heq]) ?_
  cases hfound : s.memo.columns.find? (·.1 == t) with
  | none =>
    refine (gives_columns_asked gives_lookupPool t).mono (fun _ heq => ?_) fun _ h => h
    rw [heq]
    exact hs
  | some e =>
    have hkey : e.1 = t := by simpa using List.find?_some hfound
    have hnames := hs.columns e (List.mem_of_find?_eq_some hfound)
    rw [hkey] at hnames
    rw [← hnames]
    refine .pure fun _ heq => ?_
    rw [heq]
    exact hs

lemma gives_columnsOfEach (ts : List String) :
    Gives (Answering p g store) (columnsOfEach a ts) (ts.map fun t => (t, g t))
      (Answering p g store) := by
  induction ts with
  | nil => exact .pure fun _ h => h
  | cons t ts ih => exact .bind (gives_columns t).outcome (.bind ih (.pure fun _ h => h))

/-- The lookups that a request begins with succeed if its pool and single tables do. -/
lemma gives_columnsFor {I : Session → Prop}
    (hpool : Gives I (lookupPool a) p (Answering p g store))
    (hcolumns : ∀ t, Gives I (columns a t) (g t) (Answering p g store)) {ts : List String}
    (h : ts ≠ []) :
    Gives I (columnsFor a ts) (ts.eraseDups.map fun t => (t, g t)) (Answering p g store) := by
  unfold columnsFor
  cases hts : ts.eraseDups with
  | nil =>
    cases ts with
    | nil => exact absurd rfl h
    | cons t ts => simp [List.eraseDups_cons] at hts
  | cons t rest =>
    cases rest with
    | nil => exact .bind (hcolumns t) (.pure fun _ h => h)
    | cons u rest =>
      exact .bind hpool (gives_columnsOfEach _)

/-- A request whose lookups all give the columns of one catalog, whether or not it has taken its
pool yet. -/
inductive Consults (a : Asker) (g : String → List String) (store : Store) (s : Session) : Prop
  | fresh {p : Pool} (h : Fresh a p g store s)
  | opened {p : Pool} (h : Answering p g store s)

lemma Consults.sameStore {s : Session} (h : Consults a g store s) : s.world.store = store := by
  cases h with
  | fresh h | opened h => exact h.serving.store

/-- The lookups that a request begins with succeed, and so do all that come after them. -/
lemma Consults.gives_columnsFor {s : Session} (h : Consults a g store s) {ts : List String}
    (hts : ts ≠ []) :
    ∃ p, Gives (· = s) (columnsFor a ts) (ts.eraseDups.map fun t => (t, g t))
      (Answering p g store) := by
  cases h with
  | @fresh p h =>
    exact ⟨p, (Service.gives_columnsFor gives_lookupPool_fresh gives_columns_fresh hts).at_state h⟩
  | @opened p h =>
    exact ⟨p, (Service.gives_columnsFor gives_lookupPool gives_columns hts).at_state h⟩

end

end MetricLayer.Service
