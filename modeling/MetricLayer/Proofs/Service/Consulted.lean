import MetricLayer.Proofs.Service.Lookup

/-!
# What lookups consult

The lookups of a request need a pool and the columns of tables. They are looked at here with any
supplier of both, which may fail from time to time. A supplier can record how it is consulted: the
lookups of an asker are those with a supplier that records, the record forgotten. What a lookup
consults is told from the record of what was consulted before.
-/
namespace MetricLayer.Service

/-- A state and the memory of one request. -/
structure Remembering (σ : Type) where
  state : σ
  memo : Memo := {}

/-- What the lookups of a request are made with: what gives the pool, and the query for the
columns of a table. -/
structure Supplier (σ : Type) where
  pool : ExceptT Fault (StateM σ) Pool
  columns : Pool → String → ExceptT Fault (StateM σ) (List String)
  /-- Of the lookups that go side by side, which are begun by the time an earlier one is seen to
  fail, by their places after it. -/
  begun : σ → Nat → Bool

variable {σ α β : Type}

namespace Remembering

/-- A step of a supplier among lookups. -/
def consult (x : ExceptT Fault (StateM σ) α) : ExceptT Fault (StateM (Remembering σ)) α := fun s =>
  ((x s.state).1, { s with state := (x s.state).2 })

/-- Looks at the state. -/
def survey (f : σ → α) : ExceptT Fault (StateM (Remembering σ)) α := fun s => (.ok (f s.state), s)

/-- Looks at the memory. -/
def glance (f : Memo → α) : ExceptT Fault (StateM (Remembering σ)) α := fun s => (.ok (f s.memo), s)

/-- Changes the memory. -/
def retain (f : Memo → Memo) : ExceptT Fault (StateM (Remembering σ)) Unit := fun s =>
  (.ok (), { s with memo := f s.memo })

/-- The outcome of a step, which does not end the steps after it. -/
def attempt (x : ExceptT Fault (StateM (Remembering σ)) α) :
    ExceptT Fault (StateM (Remembering σ)) (Except Fault α) := fun s => (.ok (x s).1, (x s).2)

end Remembering

namespace Supplier
open Remembering

/-- The pool of the request. -/
def lookupPool (src : Supplier σ) : ExceptT Fault (StateM (Remembering σ)) Pool := do
  match ← glance (·.pool) with
  | some p => return p
  | none =>
    let p ← consult src.pool
    retain fun m => { m with pool := some p }
    return p

/-- The columns of a table. -/
def lookup (src : Supplier σ) (table : String) :
    ExceptT Fault (StateM (Remembering σ)) (List String) := do
  match ← glance fun m => m.columns.find? (·.1 == table) with
  | some (_, names) => return names
  | none =>
    let p ← src.lookupPool
    let names ← consult (src.columns p table)
    retain fun m => { m with columns := m.columns ++ [(table, names)] }
    return names

/-- Looks up tables, whatever becomes of each. -/
def lookupBegun (src : Supplier σ) : List String → ExceptT Fault (StateM (Remembering σ)) Unit
  | [] => return ()
  | t :: ts => do
    let _ ← attempt (src.lookup t)
    src.lookupBegun ts

/-- Looks up tables up to the first that fails, and those that are begun by then. -/
def lookupEach (src : Supplier σ) :
    List String → ExceptT Fault (StateM (Remembering σ)) Join.Columns
  | [] => return []
  | t :: ts => do
    match ← attempt (src.lookup t) with
    | .ok names =>
      let rest ← src.lookupEach ts
      return (t, names) :: rest
    | .error e =>
      let begun ← survey src.begun
      src.lookupBegun (chosen begun ts)
      throw e

/-- The columns of several tables. -/
def lookupAll (src : Supplier σ) (tables : List String) :
    ExceptT Fault (StateM (Remembering σ)) Join.Columns := do
  match tables.eraseDups with
  | [] => return []
  | [t] => return [(t, ← src.lookup t)]
  | ts =>
    let _ ← src.lookupPool
    src.lookupEach ts

/-- What the lookups of an asker are made with: the pool of its connection, and catalog queries on
this pool. -/
def ofAsker (a : Asker) : Supplier World where
  pool := acquire a.connectionId a.user
  columns p table := catalogQuery p (some table) (.columns p.schema table) fun t tick =>
    t.columns tick p.schema table
  begun w := w.target.begun w.tick

end Supplier

/-! ### Records -/

/-- A consultation of a supplier, with its outcome. -/
inductive Consultation where
  | pool (r : Except Fault Pool)
  | columns (p : Pool) (table : String) (r : Except Fault (List String))

namespace Consultation

/-- The pool that was given. -/
def pool? : Consultation → Option Pool
  | .pool (.ok p) => some p
  | _ => none

/-- The columns that were found for a table. -/
def found? (table : String) : Consultation → Option (List String)
  | .columns _ t (.ok names) => if t == table then some names else none
  | _ => none

/-- How a consultation failed. -/
def fault? : Consultation → Option Fault
  | .pool (.error x) | .columns _ _ (.error x) => some x
  | _ => none

/-- Whether a consultation is a query for a table. -/
def isFor (table : String) : Consultation → Bool
  | .columns _ t _ => t == table
  | .pool _ => false

/-- Whether a consultation makes another one needless. -/
def Settles : Consultation → Consultation → Prop
  | .pool (.ok _), .pool _ => True
  | .columns _ t (.ok _), .columns _ u _ => t = u
  | _, _ => False

end Consultation

/-- A supplier that records how it is consulted. -/
def Supplier.recorded (src : Supplier σ) : Supplier (σ × List Consultation) where
  pool := fun s =>
    ((src.pool s.1).1, (src.pool s.1).2, s.2 ++ [.pool (src.pool s.1).1])
  columns p table := fun s =>
    ((src.columns p table s.1).1, (src.columns p table s.1).2,
      s.2 ++ [.columns p table (src.columns p table s.1).1])
  begun s := src.begun s.1

/-- A session, the record forgotten. -/
def Remembering.session (s : Remembering (World × List Consultation)) : Session :=
  ⟨s.state.1, s.memo⟩

/-- A step with a record is another one, the record forgotten. -/
def Records (x : ExceptT Fault (StateM (Remembering (World × List Consultation))) α)
    (y : LookupM α) : Prop :=
  ∀ s, y s.session = ((x s).1, (x s).2.session)

namespace Records

theorem bind {x : ExceptT Fault (StateM (Remembering (World × List Consultation))) α}
    {y : LookupM α} {f : α → ExceptT Fault (StateM (Remembering (World × List Consultation))) β}
    {g : α → LookupM β} (hx : Records x y) (hf : ∀ a, Records (f a) (g a)) :
    Records (x >>= f) (y >>= g) := by
  intro s
  rw [run_bind, run_bind, hx s]
  cases (x s).1 with
  | error e => rfl
  | ok a => exact hf a (x s).2

theorem attempt {x : ExceptT Fault (StateM (Remembering (World × List Consultation))) α}
    {y : LookupM α} (hx : Records x y) : Records (Remembering.attempt x) (outcome y) := by
  intro s
  rw [run_outcome, hx s]
  rfl

variable (a : Asker)

lemma lookupPool : Records (Supplier.ofAsker a).recorded.lookupPool (Service.lookupPool a) := by
  refine .bind (fun _ => rfl) fun known => ?_
  cases known with
  | some p => exact fun _ => rfl
  | none => exact .bind (fun _ => rfl) fun p => fun _ => rfl

lemma lookup (t : String) :
    Records ((Supplier.ofAsker a).recorded.lookup t) (Service.columns a t) := by
  refine .bind (fun _ => rfl) fun known => ?_
  cases known with
  | some e => exact fun _ => rfl
  | none => exact .bind (lookupPool a) fun p => .bind (fun _ => rfl) fun names => fun _ => rfl

lemma lookupBegun (ts : List String) :
    Records ((Supplier.ofAsker a).recorded.lookupBegun ts) (columnsBegun a ts) := by
  induction ts with
  | nil => exact fun _ => rfl
  | cons t ts ih => exact .bind (lookup a t).attempt fun r => ih

lemma lookupEach (ts : List String) :
    Records ((Supplier.ofAsker a).recorded.lookupEach ts) (columnsOfEach a ts) := by
  induction ts with
  | nil => exact fun _ => rfl
  | cons t ts ih =>
    refine .bind (lookup a t).attempt fun r => ?_
    cases r with
    | ok names => exact .bind ih fun rest => fun _ => rfl
    | error e => exact .bind (fun _ => rfl) fun begun => .bind (lookupBegun a _) fun _ _ => rfl

lemma lookupAll (ts : List String) :
    Records ((Supplier.ofAsker a).recorded.lookupAll ts) (columnsFor a ts) := by
  unfold Supplier.lookupAll columnsFor
  match ts.eraseDups with
  | [] => exact fun _ => rfl
  | [t] => exact .bind (lookup a t) fun names => fun _ => rfl
  | t :: u :: rest => exact .bind (lookupPool a) fun p => lookupEach a _

end Records

/-! ### What a record tells -/

/-- The pool that was given first. -/
def pooled (log : List Consultation) : Option Pool := log.findSome? Consultation.pool?

/-- The columns of a table that were found first. -/
def firstFound (log : List Consultation) (table : String) : Option (List String) :=
  log.findSome? (·.found? table)

lemma pooled_append {log : List Consultation} {p : Pool} (h : pooled log = some p)
    (new : List Consultation) : pooled (log ++ new) = some p := by
  rw [pooled, List.findSome?_append, ← pooled, h]
  rfl

/-- What was found is found first whatever comes later. -/
lemma firstFound_append {log : List Consultation} {table : String} {names : List String}
    (h : firstFound log table = some names) (new : List Consultation) :
    firstFound (log ++ new) table = some names := by
  rw [firstFound, List.findSome?_append, ← firstFound, h]
  rfl

/-- The memory of a request is what its consultations gave first. -/
structure Recalls (log : List Consultation) (m : Memo) : Prop where
  pool : m.pool = pooled log
  columns : ∀ table, (m.columns.find? (·.1 == table)).map (·.2) = firstFound log table

/-! ### What a lookup consults -/

/-- After a log, a request gets its pool: the one it had, or the one that it asks for now. -/
inductive Taken (log : List Consultation) : List Consultation → Except Fault Pool → Prop
  | known {p : Pool} (known : pooled log = some p) : Taken log [] (.ok p)
  | asked (unknown : pooled log = none) (r : Except Fault Pool) : Taken log [.pool r] r

/-- After a log, a table is looked up: its columns were found, or they are asked for now if there
is a pool. -/
inductive Looked (log : List Consultation) (table : String) :
    List Consultation → Except Fault (List String) → Prop
  | known {names : List String} (known : firstFound log table = some names) :
    Looked log table [] (.ok names)
  | unpooled {new : List Consultation} {x : Fault} (unknown : firstFound log table = none)
    (taken : Taken log new (.error x)) : Looked log table new (.error x)
  | asked {new : List Consultation} {p : Pool} (unknown : firstFound log table = none)
    (taken : Taken log new (.ok p)) (r : Except Fault (List String)) :
    Looked log table (new ++ [.columns p table r]) r

/-- After a log, tables are looked up, whatever becomes of each. -/
inductive LookedBegun : List Consultation → List String → List Consultation → Prop
  | nil (log : List Consultation) : LookedBegun log [] []
  | cons {log new more : List Consultation} {t : String} {ts : List String}
    {r : Except Fault (List String)} (first : Looked log t new r)
    (rest : LookedBegun (log ++ new) ts more) : LookedBegun log (t :: ts) (new ++ more)

/-- After a log, tables are looked up in order, up to the first that fails. Of the tables after
that one, some are looked up and some are not. -/
inductive LookedEach :
    List Consultation → List String → List Consultation → Except Fault Join.Columns → Prop
  | nil (log : List Consultation) : LookedEach log [] [] (.ok [])
  | given {log new more : List Consultation} {t : String} {ts : List String}
    {names : List String} {r : Except Fault Join.Columns} (first : Looked log t new (.ok names))
    (rest : LookedEach (log ++ new) ts more r) :
    LookedEach log (t :: ts) (new ++ more) (r.map ((t, names) :: ·))
  | failed {log new more : List Consultation} {t : String} {ts begun : List String} {x : Fault}
    (first : Looked log t new (.error x)) (some : begun.Sublist ts)
    (rest : LookedBegun (log ++ new) begun more) :
    LookedEach log (t :: ts) (new ++ more) (.error x)

/-- From every session with a log that it recalls, a step consults the supplier in a certain way,
and recalls that too. -/
def Consulting (log : List Consultation)
    (x : ExceptT Fault (StateM (Remembering (σ × List Consultation))) α)
    (how : List Consultation → Except Fault α → Prop) : Prop :=
  ∀ s, s.state.2 = log → Recalls log s.memo → ∃ new, how new (x s).1 ∧
    (x s).2.state.2 = log ++ new ∧ Recalls (log ++ new) (x s).2.memo

namespace Consulting

variable {log : List Consultation}
  {x : ExceptT Fault (StateM (Remembering (σ × List Consultation))) α}
  {how : List Consultation → Except Fault α → Prop}

theorem bind {f : α → ExceptT Fault (StateM (Remembering (σ × List Consultation))) β}
    {how' : List Consultation → Except Fault β → Prop} (hx : Consulting log x how)
    (herror : ∀ new e, how new (.error e) → how' new (.error e))
    (hf : ∀ new a, how new (.ok a) →
      Consulting (log ++ new) (f a) fun more r => how' (new ++ more) r) :
    Consulting log (x >>= f) how' := by
  intro s hlog hs
  obtain ⟨new, hnew, hlog', hrecalls⟩ := hx s hlog hs
  rw [run_bind]
  cases hr : (x s).1 with
  | error e =>
    rw [hr] at hnew
    exact ⟨new, herror new e hnew, hlog', hrecalls⟩
  | ok a =>
    rw [hr] at hnew
    obtain ⟨more, hmore, hlog'', hrecalls'⟩ := hf new a hnew _ hlog' hrecalls
    rw [List.append_assoc] at hlog'' hrecalls'
    exact ⟨new ++ more, hmore, hlog'', hrecalls'⟩

/-- A step that neither consults the supplier nor changes the memory. -/
theorem still {f : Remembering (σ × List Consultation) → Except Fault α}
    (hx : ∀ s, x s = (f s, s)) (h : ∀ s, how [] (f s)) : Consulting log x how := by
  intro s hlog hs
  rw [← List.append_nil log] at hlog hs
  rw [hx]
  exact ⟨[], h s, hlog, hs⟩

theorem pure {a : α} (h : how [] (.ok a)) : Consulting (σ := σ) log (Pure.pure a) how :=
  still (fun _ => rfl) fun _ => h

theorem throw {e : Fault} (h : how [] (.error e)) :
    Consulting (σ := σ) log (MonadExcept.throw e) how :=
  still (fun _ => rfl) fun _ => h

theorem mono {how' : List Consultation → Except Fault α → Prop} (hx : Consulting log x how)
    (h : ∀ new r, how new r → how' new r) : Consulting log x how' := by
  intro s hlog hs
  obtain ⟨new, hnew, hlog', hrecalls⟩ := hx s hlog hs
  exact ⟨new, h new _ hnew, hlog', hrecalls⟩

theorem attempt (hx : Consulting log x how) :
    Consulting log (Remembering.attempt x) fun new r => ∃ r', r = .ok r' ∧ how new r' := by
  intro s hlog hs
  obtain ⟨new, hnew, hlog', hrecalls⟩ := hx s hlog hs
  exact ⟨new, ⟨_, rfl, hnew⟩, hlog', hrecalls⟩

end Consulting

namespace Recalls

variable {log : List Consultation} {m : Memo}

/-- A failure is not remembered. -/
lemma pool_error (h : Recalls log m) (x : Fault) : Recalls (log ++ [.pool (.error x)]) m where
  pool := by simp [pooled, Consultation.pool?, h.pool]
  columns t := by simp [firstFound, Consultation.found?, h.columns]

lemma pool_ok (h : Recalls log m) (hnone : pooled log = none) (p : Pool) :
    Recalls (log ++ [.pool (.ok p)]) { m with pool := some p } where
  pool := by
    rw [pooled] at hnone
    simp [pooled, Consultation.pool?, hnone]
  columns t := by simp [firstFound, Consultation.found?, h.columns]

lemma columns_error (h : Recalls log m) (p : Pool) (t : String) (x : Fault) :
    Recalls (log ++ [.columns p t (.error x)]) m where
  pool := by simp [pooled, Consultation.pool?, h.pool]
  columns u := by simp [firstFound, Consultation.found?, h.columns]

lemma columns_ok (h : Recalls log m) (p : Pool) {t : String} (names : List String) :
    Recalls (log ++ [.columns p t (.ok names)])
      { m with columns := m.columns ++ [(t, names)] } where
  pool := by simp [pooled, Consultation.pool?, h.pool]
  columns u := by
    have hu := h.columns u
    rw [firstFound] at hu
    rw [firstFound, List.findSome?_append, List.find?_append, ← hu]
    cases m.columns.find? (·.1 == u) with
    | some e => rfl
    | none =>
      by_cases htu : t = u <;> simp [Consultation.found?, htu]

end Recalls

section
variable {src : Supplier σ} {log : List Consultation}

lemma consulting_lookupPool : Consulting log src.recorded.lookupPool (Taken log) := by
  intro s hlog hs
  have hmemo : Remembering.glance (·.pool) s = (.ok s.memo.pool, s) := rfl
  unfold Supplier.lookupPool
  rw [run_bind_ok hmemo]
  cases hp : s.memo.pool with
  | some p => exact Consulting.pure (.known (hs.pool.symm.trans hp)) s hlog hs
  | none =>
    have hnone : pooled log = none := hs.pool.symm.trans hp
    have hrun : Remembering.consult src.recorded.pool s = ((src.pool s.state.1).1,
        { s with state := ((src.pool s.state.1).2, log ++ [.pool (src.pool s.state.1).1]) }) :=
      hlog ▸ rfl
    dsimp only
    cases hr : (src.pool s.state.1).1 with
    | error x =>
      rw [hr] at hrun
      rw [run_bind_error hrun]
      exact ⟨_, .asked hnone (.error x), rfl, hs.pool_error x⟩
    | ok p =>
      rw [hr] at hrun
      rw [run_bind_ok hrun]
      exact ⟨_, .asked hnone (.ok p), rfl, hs.pool_ok hnone p⟩

/-- A query for a table, the columns of which are remembered. -/
lemma consulting_query (p : Pool) (t : String) :
    Consulting log (do
        let names ← Remembering.consult (src.recorded.columns p t)
        Remembering.retain fun m => { m with columns := m.columns ++ [(t, names)] }
        return names) fun new r => new = [.columns p t r] := by
  intro s hlog hs
  have hrun : Remembering.consult (src.recorded.columns p t) s = ((src.columns p t s.state.1).1,
      { s with state := ((src.columns p t s.state.1).2,
        log ++ [.columns p t (src.columns p t s.state.1).1]) }) := hlog ▸ rfl
  cases hr : (src.columns p t s.state.1).1 with
  | error x =>
    rw [hr] at hrun
    rw [run_bind_error hrun]
    exact ⟨_, rfl, rfl, hs.columns_error p t x⟩
  | ok names =>
    rw [hr] at hrun
    rw [run_bind_ok hrun]
    exact ⟨_, rfl, rfl, hs.columns_ok p names⟩

lemma consulting_lookup (t : String) : Consulting log (src.recorded.lookup t) (Looked log t) := by
  intro s hlog hs
  have hmemo : Remembering.glance (fun m => m.columns.find? (·.1 == t)) s =
      (.ok (s.memo.columns.find? (·.1 == t)), s) := rfl
  have hcolumns := hs.columns t
  unfold Supplier.lookup
  rw [run_bind_ok hmemo]
  cases hfound : s.memo.columns.find? (·.1 == t) with
  | some e =>
    rw [hfound] at hcolumns
    exact Consulting.pure (.known hcolumns.symm) s hlog hs
  | none =>
    rw [hfound] at hcolumns
    have hlookup : Consulting log (do
        let p ← src.recorded.lookupPool
        let names ← Remembering.consult (src.recorded.columns p t)
        Remembering.retain fun m => { m with columns := m.columns ++ [(t, names)] }
        return names) (Looked log t) := by
      refine consulting_lookupPool.bind (fun new x h => .unpooled hcolumns.symm h) ?_
      intro new p htaken
      refine (consulting_query p t).mono ?_
      rintro _ r rfl
      exact .asked hcolumns.symm htaken r
    exact hlookup s hlog hs

lemma chosen_sublist {β : Type} (places : Nat → Bool) (items : List β) :
    (chosen places items).Sublist items := by
  have h := (List.filter_sublist (p := fun e : β × Nat => places e.2)
    (l := items.zipIdx)).map (·.1)
  rwa [List.zipIdx_map_fst] at h

lemma consulting_lookupBegun (ts : List String) :
    Consulting log (src.recorded.lookupBegun ts) fun new r =>
      r = .ok () ∧ LookedBegun log ts new := by
  induction ts generalizing log with
  | nil => exact .pure ⟨rfl, .nil log⟩
  | cons t ts ih =>
    refine (consulting_lookup t).attempt.bind ?_ ?_
    · rintro new x ⟨_, hx, -⟩
      cases hx
    · rintro new r ⟨_, -, hlooked⟩
      exact ih.mono fun more r ⟨hr, hbegun⟩ => ⟨hr, .cons hlooked hbegun⟩

lemma consulting_lookupEach (ts : List String) :
    Consulting log (src.recorded.lookupEach ts) (LookedEach log ts) := by
  induction ts generalizing log with
  | nil => exact .pure (.nil log)
  | cons t ts ih =>
    refine (consulting_lookup t).attempt.bind ?_ ?_
    · rintro new x ⟨_, hx, -⟩
      cases hx
    rintro new r ⟨_, hr, hlooked⟩
    obtain rfl := Except.ok.inj hr
    cases r with
    | ok names =>
      refine ih.bind (fun more x hrest => .given hlooked hrest) fun more rest hrest => ?_
      refine .pure ?_
      rw [List.append_nil]
      exact .given hlooked hrest
    | error e =>
      have hsurvey : Consulting (log ++ new) (Remembering.survey src.recorded.begun)
          fun more r => more = [] ∧ ∃ begun, r = .ok begun :=
        .still (fun _ => rfl) fun _ => ⟨rfl, _, rfl⟩
      refine hsurvey.bind ?_ ?_
      · rintro more x ⟨-, _, hx⟩
        cases hx
      rintro _ begun ⟨rfl, -⟩
      simp only [List.append_nil, List.nil_append]
      refine (consulting_lookupBegun _).bind ?_ ?_
      · rintro more x ⟨hx, -⟩
        cases hx
      rintro more _ ⟨-, hbegun⟩
      refine .throw ?_
      rw [List.append_nil]
      exact .failed hlooked (chosen_sublist begun ts) hbegun

end

end MetricLayer.Service
