import MetricLayer.Model.Semantic
import MetricLayer.Settings

/-!
# Engines

How the engine of a connection is set up: where it connects to, how many connections it keeps,
and the session command that every new connection runs first.
-/
namespace MetricLayer.Service

/-- What an engine is made with. -/
structure EngineOptions where
  driver : String
  username : String
  password : String
  host : String
  port : Int
  database : String
  poolSize : Int
  /-- How many connections may be opened beyond the pool. -/
  overflow : Nat := 0
  acquireTimeout : Binary
  /-- Whether a pooled connection is tested before it is used. -/
  tested : Bool := true
  connectArgs : List (String × Value)
  /-- The session commands of every new connection. -/
  sessionCommands : List String
  deriving Inhabited

/-- A setting of the connection, unless it is zero or missing. -/
def ownOr (own : Option Int) (default : Int) : Int :=
  match own with
  | some n => if n == 0 then default else n
  | none => default

/-- The session commands of a connection: one if it has a default schema. -/
def sessionCommands (c : Connection) (d : Dialect) : List String :=
  (c.sessionSchema?.map d.defaultSchemaSql).toList

/-- The engine of a connection: its own settings go before those of the dialect. -/
def engineOptions (c : Connection) (d : Dialect) (s : Settings) : EngineOptions where
  driver := d.driver
  username := c.username
  password := c.password
  host := c.host
  port := c.port
  database := c.database
  poolSize := ownOr c.maxConnections (s.poolSize d)
  acquireTimeout := s.acquireTimeout
  connectArgs := d.connectArgs (ownOr c.commandTimeout (s.connectTimeout d))
  sessionCommands := sessionCommands c d

/-- What happens on a new connection. -/
inductive SessionEvent where
  | execute (sql : String)
  | closeCursor
  | commit
  deriving DecidableEq, Repr

/-- Runs a session command on a new connection. The cursor is closed in any case; the command
is committed if it succeeds. -/
def startSession (sql : String) (fails : Bool) : List SessionEvent × Bool :=
  if fails then ([.execute sql, .closeCursor], false)
  else ([.execute sql, .closeCursor, .commit], true)

/-- Opens connections one after the other until one fails. -/
def startSessions (sql : String) (fails : Bool) : Nat → List SessionEvent × Bool
  | 0 => ([], true)
  | n + 1 =>
    let (events, ok) := startSession sql fails
    if ok then
      let (more, ok) := startSessions sql fails n
      (events ++ more, ok)
    else (events, false)

end MetricLayer.Service
