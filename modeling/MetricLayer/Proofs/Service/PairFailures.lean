import MetricLayer.Proofs.Service.Abreast
import MetricLayer.Proofs.Service.Effects

/-!
# Failures of single pairs

Once the first lookups have a pool, every pair is gone through, whatever becomes of the lookups
after that. A pair whose own lookups fail is recorded; each other pair has the outcome that it
has without any failure. Only the first lookups can end the run: it goes on after a failed
catalog query, but not without a pool or a connection from it.
-/
namespace MetricLayer.Service
open Store

variable {α β : Type}

/-! ### Lookups that may fail -/

/-- What becomes of a lookup: it gives a value of some kind, or a failure. -/
inductive Answers (P : α → Prop) : Except Fault α → Prop
  | given {v : α} (h : P v) : Answers P (.ok v)
  | failed (f : Failure) : Answers P (.error (.failure f))

/-- A request with a pool, for which the target database gives the columns of a catalog or fails,
and that remembers only columns of this catalog. The catalog may give a table different columns
from time to time. -/
structure Ready (p : Pool) (G : String → List String → Prop) (store : Store) (s : Session) :
    Prop where
  store : s.world.store = store
  answers : ∀ tick t names, s.world.target.columns tick p.schema t = .ok names → G t names
  pool : s.memo.pool = some p
  memory : ∀ e ∈ s.memo.columns, G e.1 e.2

section
variable {a : Asker} {p : Pool} {G : String → List String → Prop} {store : Store}

/-- Whatever becomes of a step, the request goes on as it was. -/
def Steady (p : Pool) (G : String → List String → Prop) (store : Store) (x : LookupM α) : Prop :=
  ∀ s, Ready p G store s → Ready p G store (x s).2

/-- A step gives a value of some kind or a failure, and the request goes on as it was. -/
def Tries (p : Pool) (G : String → List String → Prop) (store : Store) (x : LookupM α)
    (P : α → Prop) : Prop :=
  ∀ s, Ready p G store s → Answers P (x s).1 ∧ Ready p G store (x s).2

namespace Steady

variable {x : LookupM α}

theorem bind {f : α → LookupM β} (hx : Steady p G store x) (hf : ∀ v, Steady p G store (f v)) :
    Steady p G store (x >>= f) := by
  intro s hs
  rw [run_bind]
  cases (x s).1 with
  | error e => exact hx s hs
  | ok v => exact hf v _ (hx s hs)

theorem pure (v : α) : Steady p G store (Pure.pure v) := fun _ hs => hs

theorem outcome (hx : Steady p G store x) : Steady p G store (Service.outcome x) :=
  fun s hs => hx s hs

end Steady

namespace Tries

variable {x : LookupM α} {P : α → Prop} {Q : β → Prop}

theorem steady (h : Tries p G store x P) : Steady p G store x := fun s hs => (h s hs).2

theorem bind {f : α → LookupM β} (hx : Tries p G store x P)
    (hf : ∀ v, P v → Tries p G store (f v) Q) : Tries p G store (x >>= f) Q := by
  intro s hs
  obtain ⟨hanswer, hready⟩ := hx s hs
  rw [run_bind]
  cases hr : (x s).1 with
  | ok v =>
    rw [hr] at hanswer
    cases hanswer with
    | given hv => exact hf v hv _ hready
  | error e =>
    rw [hr] at hanswer
    cases hanswer
    exact ⟨.failed _, hready⟩

theorem pure {v : α} (h : P v) : Tries p G store (Pure.pure v) P := fun _ hs => ⟨.given h, hs⟩

end Tries

lemma catalogFault_leaseFault (table : Option String) (id : Int) (e : DatabaseError) :
    ∃ f, catalogFault table (leaseFault id e) = .failure f := by
  cases e <;> exact ⟨_, rfl⟩

/-- A table that is asked for gives columns of the catalog or a failure. -/
lemma tries_columnsQuery (t : String) :
    Tries p G store (within (catalogQuery p (some t) (.columns p.schema t)
      fun target tick => target.columns tick p.schema t)) (G t) := by
  intro s hs
  have hadapt : ∀ (x : ServiceM (List String)) (w : World),
      ExceptT.adapt (catalogFault (some t)) x w =
        ((x w).1.mapError (catalogFault (some t)), (x w).2) := fun _ _ => rfl
  have hwithin : ∀ x : ServiceM (List String),
      within x s = ((x s.world).1, { s with world := (x s.world).2 }) := fun _ => rfl
  unfold catalogQuery
  rw [hwithin, hadapt, lease_sends p _ _ (f := fun r => r.mapError .database)
    fun r _ => by cases r <;> rfl]
  cases s.world.target.connect s.world.tick with
  | some e =>
    obtain ⟨f, hf⟩ := catalogFault_leaseFault (some t) p.connection.id e
    refine ⟨?_, hs.store, hs.answers, hs.pool, hs.memory⟩
    show Answers _ (.error (catalogFault _ (leaseFault _ e)))
    rw [hf]
    exact .failed f
  | none =>
    refine ⟨?_, hs.store, hs.answers, hs.pool, hs.memory⟩
    dsimp only
    cases hanswer : s.world.target.columns (s.world.tick + 1) p.schema t with
    | ok names => exact .given (hs.answers _ _ _ hanswer)
    | error e => exact .failed _

/-- What is done about a table that is not remembered. -/
def askColumns (t : String) (p : Pool) : LookupM (List String) := do
  let names ← within (catalogQuery p (some t) (.columns p.schema t)
    fun target tick => target.columns tick p.schema t)
  remember fun m => { m with columns := m.columns ++ [(t, names)] }
  return names

lemma tries_askColumns (t : String) : Tries p G store (askColumns t p) (G t) := by
  refine .bind (tries_columnsQuery t) fun names hnames s hs =>
    ⟨.given hnames, hs.store, hs.answers, hs.pool, fun e he => ?_⟩
  rcases List.mem_append.mp he with he | he
  · exact hs.memory e he
  · rw [List.mem_singleton.mp he]
    exact hnames

lemma columns_eq (t : String) (s : Session) :
    columns a t s = match s.memo.columns.find? (·.1 == t) with
      | some e => (.ok e.2, s)
      | none => (lookupPool a >>= askColumns t) s := by
  have hfound : remembered (fun m => m.columns.find? (·.1 == t)) s =
      (.ok (s.memo.columns.find? (·.1 == t)), s) := rfl
  unfold columns
  rw [run_bind_ok hfound]
  cases s.memo.columns.find? (·.1 == t) <;> rfl

lemma lookupPool_known {s : Session} (h : s.memo.pool = some p) :
    lookupPool a s = (.ok p, s) := by
  have hfound : remembered (·.pool) s = (.ok (some p), s) := by rw [← h]; rfl
  exact run_bind_ok hfound

lemma tries_columns (t : String) : Tries p G store (columns a t) (G t) := by
  intro s hs
  rw [columns_eq]
  cases hfound : s.memo.columns.find? (·.1 == t) with
  | some e =>
    have hkey : e.1 = t := by simpa using List.find?_some hfound
    exact ⟨.given (hkey ▸ hs.memory e (List.mem_of_find?_eq_some hfound)), hs⟩
  | none =>
    dsimp only
    rw [run_bind_ok (lookupPool_known hs.pool)]
    exact tries_askColumns t s hs

/-- The mapping that is inferred for a pair from columns that the catalog gives its tables. -/
inductive Infers (G : String → List String → Prop) (f : Fact) (d : Dimension) :
    Option Mapping → Prop
  | missing {names : List String} (dimension : G d.table names)
    (column : names.contains d.column = false) : Infers G f d none
  | compared {names factNames : List String} (dimension : G d.table names)
    (column : names.contains d.column = true) (fact : G f.table factNames) :
    Infers G f d ((Join.commonColumn factNames names).map fun c =>
      ⟨none, f.id, d.id, d.table, c, c⟩)

/-- The own lookups of a pair give a mapping that is inferred from them, or a failure. -/
theorem tries_inferMapping (f : Fact) (d : Dimension) :
    Tries p G store (inferMapping a f d) (Infers G f d) := by
  refine .bind (tries_columns d.table) fun names hnames => ?_
  cases hcolumn : names.contains d.column with
  | false => exact .pure (.missing hnames hcolumn)
  | true =>
    exact .bind (tries_columns f.table) fun factNames hfact =>
      .pure (.compared hnames hcolumn hfact)

lemma steady_columnsBegun (ts : List String) : Steady p G store (columnsBegun a ts) := by
  induction ts with
  | nil => exact .pure ()
  | cons t ts ih => exact .bind (tries_columns t).steady.outcome fun _ => ih

lemma steady_columnsOfEach (ts : List String) : Steady p G store (columnsOfEach a ts) := by
  induction ts with
  | nil => exact .pure []
  | cons t ts ih =>
    refine .bind (tries_columns t).steady.outcome fun r => ?_
    cases r with
    | ok names => exact .bind ih fun rest => .pure _
    | error e =>
      have hview : Steady p G store (within (view fun w => w.target.begun w.tick)) :=
        fun _ hs => hs
      exact .bind hview fun begun => .bind (steady_columnsBegun _) fun _ _ hs => hs

end

/-! ### The first lookups -/

/-- The columns that a table of a schema may be given: those that are remembered for it, and those
that the target database gives it at some time. -/
def Known (s : Session) (schema : Option String) (t : String) (names : List String) : Prop :=
  (t, names) ∈ s.memo.columns ∨ ∃ tick, s.world.target.columns tick schema t = .ok names

lemma ready_known {s : Session} {p : Pool} (hp : s.memo.pool = some p) :
    Ready p (Known s p.schema) s.world.store s :=
  ⟨rfl, fun tick _ _ h => .inr ⟨tick, h⟩, hp, fun _ he => .inl he⟩

lemma connectionFor_error {id : Int} {user : Option Int} {w : World} {x : Fault}
    (h : (connectionFor id user w).1 = .error x) : isLookupFailure x = false := by
  rcases connectionFor_cases id user w with ⟨c, -, hrun⟩ | ⟨f, hf, hrun⟩
  · cases hrun.symm.trans h
  · obtain rfl := Except.error.inj (hrun.symm.trans h)
    rcases hf with rfl | rfl <;> rfl

lemma ofName_error {s : String} {x : Fault} (h : Dialect.ofName s = .error x) :
    isLookupFailure x = false := by
  unfold Dialect.ofName at h
  split at h
  · cases h
  · obtain rfl := Except.error.inj h
    rfl

/-- A pool that cannot be taken is not a failed catalog query. -/
lemma isLookupFailure_of_acquire {id : Int} {user : Option Int} {w : World} {x : Fault}
    (h : (acquire id user w).1 = .error x) : isLookupFailure x = false := by
  rcases acquire_cases id user w with
    ⟨y, hy, hrun⟩ | ⟨c, -, ⟨p, -, hrun⟩ | ⟨-, r, w', hrun, hmade⟩⟩
  · rw [hrun] at h
    obtain rfl := Except.error.inj h
    exact connectionFor_error hy
  · rw [hrun] at h
    cases h
  · rw [hrun] at h
    obtain rfl : r = .error x := h
    cases hmade with
    | unsupported hdialect => exact ofName_error hdialect
    | unbuilt _ _ => rfl
    | @unopened _ e _ _ _ => cases e <;> rfl
    | @unanswered _ e _ _ _ _ => cases e <;> rfl

section
variable {a : Asker} {s : Session}

/-- How a request begins: it has no pool and fails for that, or it has one from then on. -/
def Begins (s : Session) (x : LookupM α) : Prop :=
  (∃ e, (x s).1 = .error e ∧ isLookupFailure e = false ∧
    (x s).2.world.store = s.world.store) ∨
  ∃ p, Ready p (Known s p.schema) s.world.store (x s).2

lemma Begins.bind {x : LookupM α} {f : α → LookupM β} (hx : Begins s x)
    (hf : ∀ v p G store, Steady p G store (f v)) : Begins s (x >>= f) := by
  rw [Begins, run_bind]
  rcases hx with ⟨e, he, hfault, hstore⟩ | ⟨p, hready⟩
  · rw [he]
    exact .inl ⟨e, rfl, hfault, hstore⟩
  · cases hr : (x s).1 with
    | error e => exact .inr ⟨p, hready⟩
    | ok v => exact .inr ⟨p, hf v p _ _ _ hready⟩

lemma begins_lookupPool : Begins s (lookupPool a) := by
  cases hknown : s.memo.pool with
  | some p =>
    rw [Begins, lookupPool_known hknown]
    exact .inr ⟨p, ready_known hknown⟩
  | none =>
    have hfound : remembered (·.pool) s = (.ok none, s) := by rw [← hknown]; rfl
    obtain ⟨hstore, htarget⟩ := Quiet.acquire a.connectionId a.user s.world
    have hrun : within (acquire a.connectionId a.user) s =
        ((acquire a.connectionId a.user s.world).1,
          { s with world := (acquire a.connectionId a.user s.world).2 }) := rfl
    unfold lookupPool
    rw [Begins, run_bind_ok hfound]
    dsimp only
    cases hp : (acquire a.connectionId a.user s.world).1 with
    | error x =>
      rw [hp] at hrun
      rw [run_bind_error hrun]
      exact .inl ⟨x, rfl, isLookupFailure_of_acquire hp, hstore⟩
    | ok p =>
      rw [hp] at hrun
      rw [run_bind_ok hrun]
      refine .inr ⟨p, hstore, fun tick t names h => .inr ⟨tick, ?_⟩, rfl, fun e he => .inl he⟩
      rw [← htarget]
      exact h

/-- Columns are remembered only with the pool that they come from. -/
def Session.Sourced (s : Session) : Prop := s.memo.pool = none → s.memo.columns = []

lemma begins_columns (hs : s.Sourced) (t : String) : Begins s (columns a t) := by
  rw [Begins, columns_eq]
  cases hfound : s.memo.columns.find? (·.1 == t) with
  | some e =>
    cases hp : s.memo.pool with
    | none =>
      rw [hs hp] at hfound
      cases hfound
    | some p => exact .inr ⟨p, ready_known hp⟩
  | none =>
    dsimp only
    rw [run_bind]
    rcases begins_lookupPool (s := s) (a := a) with ⟨e, he, hfault, hstore⟩ | ⟨p, hready⟩
    · rw [he]
      exact .inl ⟨e, rfl, hfault, hstore⟩
    · cases hr : (lookupPool a s).1 with
      | error e => exact .inr ⟨p, hready⟩
      | ok q =>
        -- The pool that is given is the one that the request is ready with.
        obtain rfl := Option.some.inj (hready.pool.symm.trans (Looks.remembered_lookupPool hr))
        exact .inr ⟨p, (tries_askColumns t).steady _ hready⟩

/-- The lookups of some tables are begun with a pool, or fail for want of one. -/
theorem begins_columnsFor (hs : s.Sourced) {ts : List String} (h : ts ≠ []) :
    Begins s (columnsFor a ts) := by
  unfold columnsFor
  split
  · rename_i hts
    cases ts with
    | nil => exact absurd rfl h
    | cons t ts => simp [List.eraseDups_cons] at hts
  · exact (begins_columns hs _).bind fun names p G store => .pure _
  · refine begins_lookupPool.bind fun q p G store => ?_
    exact steady_columnsOfEach _

end

/-! ### Pairs -/

/-- What becomes of a pair. -/
inductive PairOutcome where
  | skipped
  | created (m : Mapping)
  | unrelated
  | failed (reason : String)

namespace PairOutcome

/-- Adds the outcome of a pair to a result. -/
def addTo (r : AutoMapResult) (e : Fact × Dimension) : PairOutcome → AutoMapResult
  | skipped => { r with skipped := r.skipped + 1 }
  | created m => { r with created := r.created ++ [m] }
  | unrelated => r
  | failed reason =>
    { r with failures := r.failures ++ [e.1.name ++ " / " ++ e.2.name ++ ": " ++ reason] }

def isUnrelated : PairOutcome → Bool
  | unrelated => true
  | _ => false

/-- What becomes of a pair: it is skipped if it is settled; otherwise its lookups fail, or the
columns that they give decide. -/
def Expected (G : String → List String → Prop) (store : Store) (e : Fact × Dimension) :
    PairOutcome → Prop
  | skipped => isSettled store e = true
  | created m => isSettled store e = false ∧ Infers G e.1 e.2 (some m.unnumbered)
  | unrelated => isSettled store e = false ∧ Infers G e.1 e.2 none
  | failed _ => isSettled store e = false

/-- What becomes of a pair if its lookups do not fail and the catalog does not change. -/
def Healthy (g : String → List String) (store : Store) (e : Fact × Dimension) :
    PairOutcome → Prop
  | skipped => isSettled store e = true
  | created m => newMapping g store e = some m.unnumbered
  | unrelated => isSettled store e = false ∧ newMapping g store e = none
  | failed _ => True

end PairOutcome

/-- How a pair is handled. Unless it is settled, its own lookups decide what becomes of it. -/
inductive Handles (a : Asker) (e : Fact × Dimension) (s : Session) : PairOutcome → Session → Prop
  | skipped (settled : isSettled s.world.store e = true) : Handles a e s .skipped s
  | created {x y : Mapping} {u : Session} {store' : Store}
    (settled : isSettled s.world.store e = false)
    (found : inferMapping a e.1 e.2 s = (.ok (some x), u))
    (stores : Stores u.world.store x y store') :
    Handles a e s (.created y) { u with world := { u.world with store := store' } }
  | unrelated {u : Session} (settled : isSettled s.world.store e = false)
    (found : inferMapping a e.1 e.2 s = (.ok none, u)) : Handles a e s .unrelated u
  | failed {x : Fault} {reason : String} {u : Session}
    (settled : isSettled s.world.store e = false)
    (failed : inferMapping a e.1 e.2 s = (.error x, u)) (reported : pairFailure? x = some reason) :
    Handles a e s (.failed reason) u

/-- Pairs are handled one after the other. -/
inductive Walk (a : Asker) : Session → List ((Fact × Dimension) × PairOutcome) → Session → Prop
  | done {s : Session} : Walk a s [] s
  | pair {s u s' : Session} {e : Fact × Dimension} {o : PairOutcome}
    {rest : List ((Fact × Dimension) × PairOutcome)} (handled : Handles a e s o u)
    (next : Walk a u rest s') : Walk a s ((e, o) :: rest) s'

/-- The result of pairs that were handled. -/
def tally (r : AutoMapResult) (walk : List ((Fact × Dimension) × PairOutcome)) : AutoMapResult :=
  walk.foldl (fun r e => e.2.addTo r e.1) r

/-- How many pairs a result accounts for. -/
def AutoMapResult.size (r : AutoMapResult) : Nat :=
  r.created.length + r.skipped + r.failures.length

lemma size_addTo (r : AutoMapResult) (e : Fact × Dimension) (o : PairOutcome) :
    (o.addTo r e).size + (if o.isUnrelated then 1 else 0) = r.size + 1 := by
  cases o <;> simp [PairOutcome.addTo, PairOutcome.isUnrelated, AutoMapResult.size] <;> omega

/-- Every pair is accounted for once, unless its tables are unrelated. -/
lemma size_tally (r : AutoMapResult) (walk : List ((Fact × Dimension) × PairOutcome)) :
    (tally r walk).size + walk.countP (·.2.isUnrelated) = r.size + walk.length := by
  induction walk generalizing r with
  | nil => rfl
  | cons e walk ih =>
    have hrest : (tally r (e :: walk)).size + walk.countP (·.2.isUnrelated) =
        (e.2.addTo r e.1).size + walk.length := ih (e.2.addTo r e.1)
    have hstep := size_addTo r e.1 e.2
    rw [List.countP_cons, List.length_cons]
    omega

section
variable {a : Asker} {p : Pool} {G : String → List String → Prop} {store store' : Store}

/-- What is expected of a pair stays the same while another pair is mapped. -/
lemma expected_of_stores {x y : Mapping} (h : Stores store x y store') {e : Fact × Dimension}
    (hne : x.pair ≠ idsOf e) {o : PairOutcome} (ho : o.Expected G store' e) :
    o.Expected G store e := by
  have hsettled := isSettled_of_stores h hne
  cases o with
  | skipped => exact hsettled.symm.trans ho
  | created m => exact ⟨hsettled.symm.trans ho.1, ho.2⟩
  | unrelated => exact ⟨hsettled.symm.trans ho.1, ho.2⟩
  | failed reason => exact hsettled.symm.trans ho

/-- A mapping that is inferred is for its pair, and has no id yet. -/
lemma Infers.fresh {f : Fact} {d : Dimension} {x : Mapping} (h : Infers G f d (some x)) :
    x.pair = (f.id, d.id) ∧ x.unnumbered = x := by
  generalize hm : some x = m at h
  cases h with
  | missing _ _ => cases hm
  | compared _ _ _ =>
    obtain ⟨c, _, rfl⟩ := Option.map_eq_some_iff.mp hm.symm
    exact ⟨rfl, rfl⟩

/-- With a catalog that does not change, there is one mapping to infer. -/
lemma Infers.eq {g : String → List String} (hG : ∀ t names, G t names → names = g t) {f : Fact}
    {d : Dimension} {m : Option Mapping} (h : Infers G f d m) : m = inferredMapping g f d := by
  cases h with
  | missing hd hcolumn =>
    rw [hG _ _ hd] at hcolumn
    rw [inferredMapping, hcolumn]
    rfl
  | compared hd hcolumn hf =>
    rw [hG _ _ hd] at hcolumn
    rw [inferredMapping, hcolumn, hG _ _ hd, hG _ _ hf]
    rfl

lemma PairOutcome.Expected.healthy {g : String → List String}
    (hG : ∀ t names, G t names → names = g t) {e : Fact × Dimension} {o : PairOutcome}
    (h : o.Expected G store e) : o.Healthy g store e := by
  cases o with
  | skipped => exact h
  | created m => simp [Healthy, newMapping, h.1, h.2.eq hG]
  | unrelated => exact ⟨h.1, by simp [newMapping, h.1, h.2.eq hG]⟩
  | failed reason => trivial

lemma unnumbered_inferredMapping {g : String → List String} {f : Fact} {d : Dimension}
    {x : Mapping} (h : inferredMapping g f d = some x) : x.unnumbered = x := by
  unfold inferredMapping at h
  split at h
  · obtain ⟨c, _, rfl⟩ := Option.map_eq_some_iff.mp h
    rfl
  · cases h

/-- What is stored is what was asked for, up to its id. -/
lemma unnumbered_stores {x y : Mapping} (h : Stores store x y store') :
    y.unnumbered = x.unnumbered := by
  conv_rhs => rw [← h.stored]
  rfl

lemma mapPair_eq (f : Fact) (d : Dimension) (s : Session) :
    mapPair a f d s = match (inferMapping a f d s).1 with
      | .error x => (.error x, (inferMapping a f d s).2)
      | .ok none => (.ok [], (inferMapping a f d s).2)
      | .ok (some m) => within (storeMappings [m]) (inferMapping a f d s).2 := by
  unfold mapPair
  rw [run_bind]
  cases (inferMapping a f d s).1 with
  | error x => rfl
  | ok inferred => cases inferred <;> rfl

/-- How one pair is handled before the others: the request goes on as it was, but for the mapping
of this pair, and as much is known and expected of the other pairs as before. -/
structure Advances (a : Asker) (p : Pool) (G : String → List String → Prop)
    (store : Store) (e : Fact × Dimension) (pairs : List (Fact × Dimension)) (s : Session)
    (o : PairOutcome) (u : Session) (existing : List (Int × Int)) (store' : Store) : Prop where
  handled : Handles a e s o u
  ready : Ready p G store' u
  expected : o.Expected G store e
  knows : Knows store' existing pairs
  others : ∀ e ∈ pairs, ∀ o : PairOutcome, o.Expected G store' e → o.Expected G store e

/-- A pair that is not settled is handled by its own lookups. -/
lemma mapPair_advances {f : Fact} {d : Dimension} {pairs : List (Fact × Dimension)} {s : Session}
    {existing : List (Int × Int)} (hids : (f.id, d.id) ∉ pairs.map idsOf)
    (hknows : Knows store existing pairs) (hs : Ready p G store s)
    (hsettled : isSettled store (f, d) = false) :
    (∃ x u, mapPair a f d s = (.error (.failure x), u) ∧
      Advances a p G store (f, d) pairs s (.failed x.message) u existing store) ∨
    (∃ u, mapPair a f d s = (.ok [], u) ∧
      Advances a p G store (f, d) pairs s .unrelated u existing store) ∨
    ∃ y u store', mapPair a f d s = (.ok [y], u) ∧
      Advances a p G store (f, d) pairs s (.created y) u ((f.id, d.id) :: existing) store' := by
  have hunsettled : isSettled s.world.store (f, d) = false := by
    rw [hs.store]
    exact hsettled
  obtain ⟨hanswer, hready⟩ := tries_inferMapping (a := a) f d s hs
  have hrun := mapPair_eq (a := a) f d s
  generalize hlooked : inferMapping a f d s = looked at hanswer hready hrun
  obtain ⟨result, u⟩ := looked
  cases hanswer with
  | failed x =>
    exact .inl ⟨x, u, hrun, .failed hunsettled hlooked rfl, hready, hsettled, hknows,
      fun _ _ _ h => h⟩
  | @given inferred hinfers =>
    cases inferred with
    | none =>
      exact .inr (.inl ⟨u, hrun, .unrelated hunsettled hlooked, hready, ⟨hsettled, hinfers⟩,
        hknows, fun _ _ _ h => h⟩)
    | some x =>
      obtain ⟨hpair, hunnumbered⟩ := hinfers.fresh
      have hdiffer : ∀ e ∈ pairs, x.pair ≠ idsOf e := fun e he heq =>
        hids (List.mem_map.mpr ⟨e, he, (hpair.symm.trans heq).symm⟩)
      obtain ⟨y, store', hstores⟩ := exists_stores_of_unsettled hsettled hpair
      have hu : Stores u.world.store x y store' := hready.store ▸ hstores
      have hsame : y.unnumbered = x := (unnumbered_stores hstores).trans hunnumbered
      refine .inr (.inr ⟨y, { u with world := { u.world with store := store' } }, store', ?_,
        .created hunsettled hlooked hu, ⟨rfl, hready.answers, hready.pool, hready.memory⟩,
        ⟨hsettled, ?_⟩, ?_, ?_⟩)
      · rw [hrun]
        show ((u.world.store.addMappings [x]).1, (⟨{ u.world with
          store := (u.world.store.addMappings [x]).2 }, u.memo⟩ : Session)) = _
        rw [hu.result]
      · rw [hsame]
        exact hinfers
      · rw [← hpair]
        exact hknows.stored hstores hdiffer
      · exact fun e he o ho => expected_of_stores hstores (hdiffer e he) ho

/-- Whatever becomes of the lookups of the first pair, it is handled, and the others are gone
through after it. -/
lemma mapPairs_advances {e : Fact × Dimension} {pairs : List (Fact × Dimension)} {s : Session}
    {existing : List (Int × Int)} (hids : idsOf e ∉ pairs.map idsOf)
    (hknows : Knows store existing (e :: pairs)) (hs : Ready p G store s) (r : AutoMapResult) :
    ∃ o u existing' store', mapPairs a existing r (e :: pairs) s =
        mapPairs a existing' (o.addTo r e) pairs u ∧
      Advances a p G store e pairs s o u existing' store' := by
  obtain ⟨f, d⟩ := e
  have hrest : Knows store existing pairs := fun e he => hknows e (List.mem_cons_of_mem _ he)
  rw [mapPairs, hknows.settled]
  cases hsettled : isSettled store (f, d) with
  | true =>
    refine ⟨.skipped, s, existing, store, rfl, .skipped ?_, hs, hsettled, hrest,
      fun _ _ _ h => h⟩
    rw [hs.store]
    exact hsettled
  | false =>
    simp only [Bool.false_eq_true, if_false]
    rw [run_bind_ok (run_outcome _ s)]
    rcases mapPair_advances (a := a) hids hrest hs hsettled with
      ⟨x, u, hrun, hadvances⟩ | ⟨u, hrun, hadvances⟩ | ⟨y, u, store', hrun, hadvances⟩
    · rw [hrun]
      exact ⟨_, u, _, _, rfl, hadvances⟩
    · rw [hrun]
      exact ⟨_, u, _, _, rfl, hadvances⟩
    · rw [hrun]
      exact ⟨_, u, _, _, rfl, hadvances⟩

/-- All pairs are handled one after the other, and what becomes of each is as expected. -/
theorem walk_mapPairs {pairs : List (Fact × Dimension)} (hids : (pairs.map idsOf).Nodup)
    {existing : List (Int × Int)} (r : AutoMapResult) (hknows : Knows store existing pairs)
    {s : Session} (hs : Ready p G store s) :
    ∃ walk s', mapPairs a existing r pairs s = (.ok (tally r walk), s') ∧ Walk a s walk s' ∧
      walk.map (·.1) = pairs ∧ ∀ e ∈ walk, e.2.Expected G store e.1 := by
  induction pairs generalizing existing r store s with
  | nil => exact ⟨[], s, rfl, .done, rfl, by simp⟩
  | cons e pairs ih =>
    obtain ⟨hnew, hids⟩ := List.nodup_cons.mp hids
    obtain ⟨o, u, existing', store', hstep, hadvances⟩ :=
      mapPairs_advances (a := a) hnew hknows hs r
    obtain ⟨walk, s', hrun, hwalk, hpairs, hexpected⟩ :=
      ih hids (o.addTo r e) hadvances.knows hadvances.ready
    refine ⟨(e, o) :: walk, s', hstep.trans hrun, .pair hadvances.handled hwalk, ?_, ?_⟩
    · rw [List.map_cons, hpairs]
    · refine List.forall_mem_cons.mpr ⟨hadvances.expected, fun e' he => ?_⟩
      exact hadvances.others e'.1 (hpairs ▸ List.mem_map_of_mem he) e'.2 (hexpected e' he)

end

/-! ### Runs -/

/-- What a run comes to that goes through all pairs. Each of them is handled once, and all of them
make up the result. If the catalog does not change, each pair whose own lookups succeed has the
outcome that it has when no lookup fails. -/
structure Isolated (a : Asker) (G : String → List String → Prop) (store : Store)
    (pairs : List (Fact × Dimension)) (s : Session)
    (walk : List ((Fact × Dimension) × PairOutcome)) (r : AutoMapResult) (s' : Session) :
    Prop where
  ids : (pairs.map idsOf).Nodup
  handled : Walk a s walk s'
  order : walk.map (·.1) = pairs
  result : r = tally {} walk
  size : r.size + walk.countP (·.2.isUnrelated) = pairs.length
  expected : ∀ e ∈ walk, e.2.Expected G store e.1
  healthy : ∀ g, (∀ t names, G t names → names = g t) → ∀ e ∈ walk, e.2.Healthy g store e.1

/-- A run without any failure creates the mappings of the catalog. -/
lemma healthy_run {a : Asker} {p : Pool} {g : String → List String} {store : Store}
    {fs : List Fact} (hkeyed : store.Keyed) (hfs : store.factsOn a.connectionId = .ok fs)
    {u : Session} (hu : Fresh a p g store u) :
    ∃ r u', autoMapPairs a u = (.ok r, u') ∧ r.failures = [] ∧
      r.created.map Mapping.unnumbered =
        (allPairs fs (store.dimensionsOn a.connectionId)).filterMap (newMapping g store) := by
  obtain ⟨created, store', hall, hgives⟩ := gives_autoMapPairs (a := a) (g := g) hkeyed hfs
  obtain ⟨u', hrun, -⟩ := hgives u (.fresh hu)
  refine ⟨_, u', hrun, rfl, ?_⟩
  rw [hall.unnumbered, List.map_filterMap]
  refine List.filterMap_congr fun e _ => ?_
  cases hx : newMapping g store e with
  | none => rfl
  | some x =>
    obtain ⟨-, hinferred⟩ := inferred_of_newMapping hx
    rw [Option.map_some, unnumbered_inferredMapping hinferred]

section
variable {a : Asker} {s : Session}

/-- After the first lookups, all pairs are gone through. -/
lemma isolated_mapPairs {p : Pool} {G : String → List String → Prop} {store : Store}
    {fs : List Fact} (hkeyed : store.Keyed) (hfs : store.factsOn a.connectionId = .ok fs)
    (hs : Ready p G store s) :
    let ds := store.dimensionsOn a.connectionId
    let existing := (store.mappingsOf (fs.map (·.id)) (some (ds.map (·.id)))).map (·.pair)
    ∃ walk r s', mapPairs a existing {} (allPairs fs ds) s = (.ok r, s') ∧
      Isolated a G store (allPairs fs ds) s walk r s' := by
  intro ds existing
  have hids := nodup_allPairs (hkeyed.facts hfs) (hkeyed.dimensions a.connectionId)
  have hknows : Knows store existing (allPairs fs ds) := fun _ => mem_existing
  obtain ⟨walk, s', hrun, hwalk, hpairs, hexpected⟩ := walk_mapPairs (a := a) hids {} hknows hs
  refine ⟨walk, _, s', hrun, hids, hwalk, hpairs, rfl, ?_, hexpected,
    fun g hg e he => (hexpected e he).healthy hg⟩
  rw [size_tally, ← hpairs, List.length_map]
  exact Nat.zero_add _

section
variable {fs : List Fact} {ds : List Dimension} {existing : List (Int × Int)}

lemma mapAll_aborted (hsome : (fs.isEmpty || ds.isEmpty) = false) {x : Fault}
    (hx : (columnsFor a (tablesOf fs ds) s).1 = .error x) (hfault : isLookupFailure x = false) :
    mapAll a fs ds existing s = (.error x, (columnsFor a (tablesOf fs ds) s).2) := by
  unfold mapAll
  rw [hsome]
  simp only [Bool.false_eq_true, if_false]
  rw [run_bind_ok (run_outcome _ s), hx]
  dsimp only
  rw [hfault]
  rfl

lemma mapAll_continued (hsome : (fs.isEmpty || ds.isEmpty) = false)
    (h : ∀ x, (columnsFor a (tablesOf fs ds) s).1 = .error x → isLookupFailure x = true) :
    mapAll a fs ds existing s =
      mapPairs a existing {} (allPairs fs ds) (columnsFor a (tablesOf fs ds) s).2 := by
  unfold mapAll
  rw [hsome]
  simp only [Bool.false_eq_true, if_false]
  rw [run_bind_ok (run_outcome _ s)]
  cases hr : (columnsFor a (tablesOf fs ds) s).1 with
  | ok columns => rfl
  | error x =>
    dsimp only
    rw [h x hr]
    rfl

end

/-- A run that cannot read its facts, or has no pairs, ends at once. Otherwise it looks up all
tables first. If that fails for anything but a failed catalog query, as it does without a pool or
a connection from it, the run fails for it and stores nothing. If it succeeds or a catalog query
failed, the run succeeds whatever becomes of the lookups after that: each pair is handled once,
a pair whose own lookups fail is recorded, and each other pair has the outcome that it has when
no lookup fails. -/
theorem pairs_isolated (hkeyed : s.world.store.Keyed) (hsourced : s.Sourced) :
    (∀ x, s.world.store.factsOn a.connectionId = .error x → autoMapPairs a s = (.error x, s)) ∧
    ∀ fs, s.world.store.factsOn a.connectionId = .ok fs →
      let ds := s.world.store.dimensionsOn a.connectionId
      let first := columnsFor a (tablesOf fs ds) s
      (fs = [] ∨ ds = [] → autoMapPairs a s = (.ok {}, s)) ∧
      (fs ≠ [] → ds ≠ [] →
        (∀ x, first.1 = .error x → isLookupFailure x = false →
          autoMapPairs a s = (.error x, first.2) ∧ first.2.world.store = s.world.store) ∧
        ((∀ x, first.1 = .error x → isLookupFailure x = true) →
          ∃ p walk r s', first.2.memo.pool = some p ∧ autoMapPairs a s = (.ok r, s') ∧
            Isolated a (Known s p.schema) s.world.store (allPairs fs ds) first.2 walk r s')) ∧
      ∀ p g u, Fresh a p g s.world.store u →
        ∃ healthy u', autoMapPairs a u = (.ok healthy, u') ∧ healthy.failures = [] ∧
          healthy.created.map Mapping.unnumbered =
            (allPairs fs ds).filterMap (newMapping g s.world.store) := by
  refine ⟨fun x hx => autoMapPairs_unread hx, fun fs hfs => ?_⟩
  intro ds first
  rw [autoMapPairs_eq rfl hfs]
  refine ⟨fun hnone => ?_, fun hfacts hdimensions => ?_, fun p g u => healthy_run hkeyed hfs⟩
  · have hempty : (fs.isEmpty || ds.isEmpty) = true := by
      rcases hnone with hnone | hnone <;> simp [hnone]
    rw [mapAll, hempty]
    rfl
  have hsome : (fs.isEmpty || ds.isEmpty) = false := by simp [hfacts, hdimensions]
  have htables : tablesOf fs ds ≠ [] := tablesOf_ne_nil (List.isEmpty_eq_false_iff.mpr hfacts)
  have hbegins : (∃ e, first.1 = .error e ∧ isLookupFailure e = false ∧
      first.2.world.store = s.world.store) ∨
      ∃ p, Ready p (Known s p.schema) s.world.store first.2 := begins_columnsFor hsourced htables
  refine ⟨fun x hx hfault => ⟨mapAll_aborted hsome hx hfault, ?_⟩, fun hcontinued => ?_⟩
  · rcases hbegins with ⟨_, _, _, hstore⟩ | ⟨p, hready⟩
    · exact hstore
    · exact hready.store
  · rcases hbegins with ⟨e, he, hfault, _⟩ | ⟨p, hready⟩
    · cases hfault.symm.trans (hcontinued e he)
    · obtain ⟨walk, r, s', hrun, hisolated⟩ := isolated_mapPairs hkeyed hfs hready
      exact ⟨p, walk, r, s', hready.pool, (mapAll_continued hsome hcontinued).trans hrun,
        hisolated⟩

end

def mallFacts : List Fact := [⟨1, 1, "Revenue", "orders", "amount", .sum⟩]

def mallDimensions : List Dimension :=
  [⟨1, 1, "Region", "customers", "region"⟩, ⟨2, 1, "City", "malls", "city"⟩,
    ⟨3, 1, "Status", "orders", "status"⟩]

def mallColumns (table : String) : List String :=
  if table == "orders" then ["id", "customer_id", "mall_id", "amount"]
  else if table == "customers" then ["customer_id", "region"]
  else if table == "malls" then ["mall_id", "city"]
  else []

/-- Orders by some dimensions. -/
def mallStore (ds : List Dimension) : Store := .memory {
  connections := [⟨1, none, "mall", "postgres", "db", 5432, "mall", "u", "p", none, none, none⟩]
  facts := mallFacts
  dimensions := ds }

/-- The columns of malls cannot be looked up. -/
def mall : World where
  store := mallStore mallDimensions
  target := { columns := fun _ _ t =>
    if t == "malls" then .error .operational else .ok (mallColumns t) }

lemma tables_mall : tablesOf mallFacts mallDimensions = ["customers", "malls", "orders"] := by
  have hsorted : (["orders", "customers", "malls"].mergeSort fun s t => s ≤ t) =
      ["customers", "malls", "orders"] := by
    simp [List.mergeSort, List.MergeSort.Internal.splitInTwo]
  exact hsorted

/-- The first lookups fail for malls, but with a pool, and the other tables are remembered. -/
lemma first_mall : (columnsFor ⟨1, none⟩ ["customers", "malls", "orders"] ⟨mall, {}⟩).1 =
    .error (.failure (.introspectionFailed (some "malls") "catalog query failed")) := by
  decide +kernel

/-- Orders are mapped to customers although their mall cannot be looked up. -/
theorem pairs_isolated_mall :
    (mallStore mallDimensions).Keyed ∧ Session.Sourced ⟨mall, {}⟩ ∧
      ∃ p walk r u s, autoMapPairs ⟨1, none⟩ ⟨mall, {}⟩ = (.ok r, s) ∧
        Isolated ⟨1, none⟩ (Known ⟨mall, {}⟩ (Pool.schema p))
          (mallStore mallDimensions) (allPairs mallFacts mallDimensions) u walk r s ∧
        r = ⟨[⟨some 1, 1, 1, "customers", "customer_id", "customer_id"⟩], 1,
          ["Revenue / City: Could not read columns of table 'malls': catalog query failed"]⟩ := by
  have hkeyed : (mallStore mallDimensions).Keyed := ⟨by decide, by decide⟩
  have hsourced : Session.Sourced ⟨mall, {}⟩ := fun _ => rfl
  have hfs : (mallStore mallDimensions).factsOn 1 = .ok mallFacts := rfl
  have hcontinued : ∀ x, (columnsFor ⟨1, none⟩ (tablesOf mallFacts mallDimensions)
      ⟨mall, {}⟩).1 = .error x → isLookupFailure x = true := by
    intro x hx
    rw [tables_mall, first_mall] at hx
    obtain rfl := Except.error.inj hx
    rfl
  obtain ⟨-, hruns⟩ := pairs_isolated (a := ⟨1, none⟩) hkeyed hsourced
  obtain ⟨-, hsome, -⟩ := hruns mallFacts hfs
  obtain ⟨-, hwalks⟩ := hsome (by decide) (by decide)
  obtain ⟨p, walk, r, s', -, hrun, hisolated⟩ := hwalks hcontinued
  refine ⟨hkeyed, hsourced, p, walk, r, _, s', hrun, hisolated, ?_⟩
  have hpairs : autoMapPairs ⟨1, none⟩ ⟨mall, {}⟩ =
      mapPairs ⟨1, none⟩ [] {} (allPairs mallFacts mallDimensions)
        (columnsFor ⟨1, none⟩ (tablesOf mallFacts mallDimensions) ⟨mall, {}⟩).2 :=
    (autoMapPairs_eq rfl hfs).trans (mapAll_continued rfl hcontinued)
  rw [tables_mall] at hpairs
  have hresult : (autoMapPairs ⟨1, none⟩ ⟨mall, {}⟩).1 = .ok
      ⟨[⟨some 1, 1, 1, "customers", "customer_id", "customer_id"⟩], 1,
        ["Revenue / City: Could not read columns of table 'malls': catalog query failed"]⟩ := by
    rw [hpairs]
    decide +kernel
  rw [hrun] at hresult
  exact Except.ok.inj hresult

/-- The connection for orders times out once, in the first lookups. -/
def busyMall : World where
  store := mallStore [⟨1, 1, "Region", "customers", "region"⟩]
  target := {
    connect := fun tick => if tick = 5 then some .timeout else none
    columns := fun _ _ t => .ok (mallColumns t) }

/-- The run ends with the timeout, although the only pair could be looked up afterwards and its
tables have a column in common. -/
theorem pairs_abandoned : ∃ s,
    autoMapPairs ⟨1, none⟩ ⟨busyMall, {}⟩ = (.error (.failure (.poolExhausted 1
      "timed out waiting for a free pooled connection")), s) ∧
    ∀ f ∈ mallFacts, (inferMapping ⟨1, none⟩ f ⟨1, 1, "Region", "customers", "region"⟩ s).1 =
      .ok (some ⟨none, 1, 1, "customers", "customer_id", "customer_id"⟩) := by
  have hfs : busyMall.store.factsOn 1 = .ok mallFacts := rfl
  have htables : tablesOf mallFacts [⟨1, 1, "Region", "customers", "region"⟩] =
      ["customers", "orders"] := by
    have hsorted : (["orders", "customers"].mergeSort fun s t => s ≤ t) =
        ["customers", "orders"] := by
      simp [List.mergeSort, List.MergeSort.Internal.splitInTwo]
    exact hsorted
  have hfirst : (columnsFor ⟨1, none⟩ (tablesOf mallFacts
      [⟨1, 1, "Region", "customers", "region"⟩]) ⟨busyMall, {}⟩).1 =
      .error (.failure (.poolExhausted 1 "timed out waiting for a free pooled connection")) := by
    rw [htables]
    decide +kernel
  refine ⟨_, (autoMapPairs_eq rfl hfs).trans (mapAll_aborted rfl hfirst rfl), ?_⟩
  change ∀ f ∈ mallFacts, (inferMapping _ f _ (columnsFor _ (tablesOf mallFacts
    [⟨1, 1, "Region", "customers", "region"⟩]) _).2).1 = _
  rw [htables]
  decide +kernel

end MetricLayer.Service
