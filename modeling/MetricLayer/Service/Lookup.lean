import MetricLayer.Service.Pool

/-!
# Catalog lookups

The columns of tables as the target database knows them, each table asked for once. The pool is
taken when it is first needed. A lookup that fails is not remembered.
-/
namespace MetricLayer.Service

/-- What the lookups of one request remember. -/
structure Memo where
  pool : Option Pool := none
  columns : Join.Columns := []

/-- The world and the memory of one request. -/
structure Session where
  world : World
  memo : Memo := {}

end Service

/-- A step with catalog lookups. -/
abbrev LookupM := ExceptT Fault (StateM Service.Session)

namespace Service

variable {α : Type}

/-- Who looks things up: a user, on a connection. -/
structure Asker where
  connectionId : Int
  user : Option Int := none

/-- A step of the service among lookups. -/
def within (step : ServiceM α) : LookupM α := fun s =>
  let (r, w) := step s.world
  (r, { s with world := w })

/-- Runs a step with lookups that starts without memory. -/
def freshLookups (step : LookupM α) : ServiceM α := fun w =>
  let (r, s) := step ⟨w, {}⟩
  (r, s.world)

/-- The outcome of a step, which does not end the steps after it. -/
def outcome (step : LookupM α) : LookupM (Except Fault α) := fun s =>
  let (r, s) := step s
  (.ok r, s)

/-- Looks at the memory. -/
def remembered (f : Memo → α) : LookupM α := fun s => (.ok (f s.memo), s)

/-- Changes the memory. -/
def remember (f : Memo → Memo) : LookupM Unit := fun s =>
  (.ok (), { s with memo := f s.memo })

/-- The pool of the request. -/
def lookupPool (a : Asker) : LookupM Pool := do
  match ← remembered (·.pool) with
  | some p => return p
  | none =>
    let p ← within (acquire a.connectionId a.user)
    remember fun m => { m with pool := some p }
    return p

/-- The failure of a catalog query. Failures of other kinds stay what they are. -/
def catalogFault (table : Option String) : Fault → Fault
  | .database _ => .failure (.introspectionFailed table "catalog query failed")
  | f => f

/-- Runs a catalog query on a pool. -/
def catalogQuery (p : Pool) (table : Option String) (s : Statement)
    (answer : Target → Nat → Except DatabaseError (List String)) : ServiceM (List String) :=
  ExceptT.adapt (catalogFault table) <| lease p do
    send p.engine p.dialect s
    match ← ask answer with
    | .ok names => return names
    | .error e => throw (.database e)

/-- The columns of a table in catalog order; none if the table is unknown. -/
def columns (a : Asker) (table : String) : LookupM (List String) := do
  match ← remembered fun m => m.columns.find? (·.1 == table) with
  | some (_, names) => return names
  | none =>
    let p ← lookupPool a
    let names ← within (catalogQuery p (some table) (.columns p.schema table)
      fun t tick => t.columns tick p.schema table)
    remember fun m => { m with columns := m.columns ++ [(table, names)] }
    return names

/-- The items at the places that are chosen. -/
def chosen {β : Type} (places : Nat → Bool) (items : List β) : List β :=
  (items.zipIdx.filter fun e => places e.2).map (·.1)

/-- Looks up tables, whatever becomes of each. -/
def columnsBegun (a : Asker) : List String → LookupM Unit
  | [] => return ()
  | t :: ts => do
    let _ ← outcome (columns a t)
    columnsBegun a ts

/-- Looks up tables up to the first that fails. Lookups of later tables are then dropped, but for
those that are begun already. -/
def columnsOfEach (a : Asker) : List String → LookupM Join.Columns
  | [] => return []
  | t :: ts => do
    match ← outcome (columns a t) with
    | .ok names =>
      let rest ← columnsOfEach a ts
      return (t, names) :: rest
    | .error e =>
      let begun ← within (view fun w => w.target.begun w.tick)
      columnsBegun a (chosen begun ts)
      throw e

/-- The columns of several tables, each table once. Several tables are looked up side by side; the
failure of the first that fails is reported. -/
def columnsFor (a : Asker) (tables : List String) : LookupM Join.Columns := do
  match tables.eraseDups with
  | [] => return []
  | [t] => return [(t, ← columns a t)]
  | ts =>
    let _ ← lookupPool a
    columnsOfEach a ts

/-- The base tables of the default schema. -/
def listTables (a : Asker) : LookupM (List String) := do
  let p ← lookupPool a
  within (catalogQuery p none (.tables p.schema) fun t tick => t.tables tick p.schema)

end MetricLayer.Service
