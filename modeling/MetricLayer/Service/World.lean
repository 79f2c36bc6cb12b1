import MetricLayer.Compile

/-!
# The world of the service

The metadata store, the pools of connections and the target database that the service works
with. What the database answers may change from call to call: every call is told apart by a
tick. The statements that reach the database are kept in order.
-/
namespace MetricLayer.Service

/-- A row of a result. -/
abbrev Row := List (String × Value)

/-- A failed query: the kind of failure and the message of the driver. -/
structure QueryError where
  error : DatabaseError
  message : String := ""
  deriving DecidableEq, Repr

/-- The answers of the target database, call by call. -/
structure Target where
  /-- Whether an engine can be made. -/
  build : Nat → Option DatabaseError := fun _ => none
  /-- Whether a connection can be opened or taken from the pool. -/
  connect : Nat → Option DatabaseError := fun _ => none
  /-- How many new connections are opened when one is taken from the pool. -/
  opened : Nat → Nat := fun _ => 0
  /-- Whether the first statement of a new pool succeeds. -/
  probe : Nat → Option DatabaseError := fun _ => none
  /-- The columns of a table of a schema, none if there is no such table. -/
  columns : Nat → Option String → String → Except DatabaseError (List String) :=
    fun _ _ _ => .ok []
  /-- Of the lookups that go side by side, which are begun by the time an earlier one is seen to
  fail, by their places after it. -/
  begun : Nat → Nat → Bool := fun _ _ => true
  /-- The base tables of a schema. -/
  tables : Nat → Option String → Except DatabaseError (List String) := fun _ _ => .ok []
  /-- The rows of a query. -/
  query : Nat → String → List (String × Value) → Except QueryError (List Row) :=
    fun _ _ _ => .ok []

/-- What is sent to a database. -/
inductive Statement where
  /-- The first statement of a new pool. -/
  | probe
  /-- The first statement of a new connection, which sets its schema. -/
  | session (schema : String)
  | columns (schema : Option String) (table : String)
  | tables (schema : Option String)
  | query (sql : String) (params : List (String × Value))

/-- The text of a statement in a dialect. -/
def Statement.sql (d : Dialect) : Statement → String
  | probe => "SELECT 1"
  | session schema => d.defaultSchemaSql schema
  | columns _ _ => d.columnsSql
  | tables _ => d.tablesSql
  | query sql _ => sql

/-- A statement that reached the database through an engine. -/
structure Event where
  engine : Nat
  dialect : Dialect
  statement : Statement

/-- A live pool: the connection it was made for, its engine and its dialect. -/
structure Pool where
  connection : Connection
  engine : Nat
  dialect : Dialect
  deriving DecidableEq, Repr

/-- The schema of unqualified names. -/
def Pool.schema (p : Pool) : Option String := p.connection.selectedDb

/-- Everything the service reads and changes. -/
structure World where
  store : Store := .empty
  settings : Setup := {}
  /-- Whether statements are checked before they are sent. -/
  guarded : Bool := true
  target : Target := {}
  tick : Nat := 0
  /-- The pools by the ids of their connections. -/
  pools : List (Int × Pool) := []
  /-- How many engines were made; engines are numbered from zero. -/
  engines : Nat := 0
  /-- The engines that are disposed. -/
  disposed : List Nat := []
  /-- The engines of the connections that are taken and not given back. -/
  leases : List Nat := []
  /-- The statements sent so far. -/
  sent : List Event := []

end Service

/-- A step of the service: it may fail, and changes the world either way. -/
abbrev ServiceM := ExceptT Fault (StateM Service.World)

namespace Service

variable {α : Type}

/-- A result that does not depend on the world. -/
def lift (r : Except Fault α) : ServiceM α := fun w => (r, w)

/-- Looks at the world. -/
def view (f : World → α) : ServiceM α := fun w => (.ok (f w), w)

/-- Changes the world. -/
def change (f : World → World) : ServiceM Unit := fun w => (.ok (), f w)

/-- The next answer of the target database. -/
def ask (answer : Target → Nat → α) : ServiceM α := fun w =>
  (.ok (answer w.target w.tick), { w with tick := w.tick + 1 })

/-- The statements that a number of new connections of an engine start with. -/
def sessions (engine : Nat) (c : Connection) (d : Dialect) (opened : Nat) : List Event :=
  match c.sessionSchema? with
  | none => []
  | some schema => List.replicate opened ⟨engine, d, .session schema⟩

/-- The world once a connection of an engine is taken, or cannot be taken. -/
def World.taken (w : World) (engine : Nat) (c : Connection) (d : Dialect) : World := { w with
  tick := w.tick + 1
  sent := w.sent ++ sessions engine c d (w.target.opened w.tick) }

/-- Takes a connection of an engine. Connections that are opened for this set their schema. -/
def checkOut (engine : Nat) (c : Connection) (d : Dialect) : ServiceM (Option DatabaseError) :=
  fun w => (.ok (w.target.connect w.tick), w.taken engine c d)

/-- Notes that a statement is sent. -/
def send (engine : Nat) (d : Dialect) (s : Statement) : ServiceM Unit :=
  change fun w => { w with sent := w.sent ++ [⟨engine, d, s⟩] }

/-- Runs a step while a connection of an engine is taken, and gives it back in any case. -/
def holding (engine : Nat) (step : ServiceM α) : ServiceM α := fun w =>
  let (r, w) := step { w with leases := engine :: w.leases }
  (r, { w with leases := w.leases.erase engine })

end Service
end MetricLayer
