import MetricLayer.Check.Scalar
import MetricLayer.Sql.Dialect
import MetricLayer.Text.Case

/-!
# Settings

What can be set from outside, with the values that apply otherwise. Settings are given
directly or by environment variables, whose names may be in any letter case.
-/
namespace MetricLayer

/-- The settings of the program. -/
structure Settings where
  logLevel : String := "INFO"
  /-- The address of the metadata store, which goes before a catalog file. -/
  metadataUrl : Option String := none
  catalogPath : Option String := none
  apiHost : String := "localhost"
  apiPort : Int := 8000
  /-- A port that goes before the configured one. -/
  port : Option Int := none
  toolTransport : String := "stdio"
  toolHost : String := "localhost"
  toolPort : Int := 9000
  postgresPoolSize : Int := 20
  postgresConnectTimeout : Int := 5000
  mysqlPoolSize : Int := 10
  mysqlConnectTimeout : Int := 10000
  /-- How many seconds to wait for a free pooled connection. -/
  acquireTimeout : Binary := Binary.ofInt 30
  introspectionWorkers : Int := 4
  /-- Whether every fact of a derived metric is summed, whatever its own function. -/
  sumOnly : Bool := false
  validateSql : Bool := true
  deriving DecidableEq, Repr

namespace Settings

/-- The port to listen on. -/
def effectivePort (s : Settings) : Int := s.port.getD s.apiPort

/-- The default pool size of a dialect. -/
def poolSize (s : Settings) : Dialect → Int
  | .postgres => s.postgresPoolSize
  | .mysql => s.mysqlPoolSize

/-- The default connect timeout of a dialect, in milliseconds. -/
def connectTimeout (s : Settings) : Dialect → Int
  | .postgres => s.postgresConnectTimeout
  | .mysql => s.mysqlConnectTimeout

/-- The variable of a given name in lower case; the last one counts. -/
def lookUp? (env : List (String × String)) (name : String) : Option Value :=
  (env.reverse.find? fun e => Text.lower e.1 == name).map fun e => .str e.2

variable {α : Type}

/-- One setting: given directly, or by a variable, or left at its default. -/
def setting (given : List (Value × Value)) (env : List (String × String)) (name : String)
    (default : α) (check : Value → Checked α) : Checked α :=
  match (Value.get? given name).orElse fun _ => lookUp? env name with
  | some v => (check v).under (.key name)
  | none => .passed default

open Check in
/-- The settings given directly and by the environment. -/
def check (given : List (Value × Value)) (env : List (String × String)) : Checked Settings :=
  let d : Settings := {}
  let text := fun name default => setting given env name default string
  let int := fun name default => setting given env name default integer
  Settings.mk
    <$> text "log_level" d.logLevel
    <*> setting given env "metadata_db_url" d.metadataUrl (nullable string)
    <*> setting given env "catalog_path" d.catalogPath (nullable string)
    <*> text "api_server_host" d.apiHost
    <*> int "api_server_port" d.apiPort
    <*> setting given env "port" d.port (nullable integer)
    <*> text "mcp_transport" d.toolTransport
    <*> text "mcp_server_host" d.toolHost
    <*> int "mcp_server_port" d.toolPort
    <*> int "postgres_pool_size" d.postgresPoolSize
    <*> int "postgres_connect_timeout_ms" d.postgresConnectTimeout
    <*> int "mysql_pool_size" d.mysqlPoolSize
    <*> int "mysql_connect_timeout_ms" d.mysqlConnectTimeout
    <*> setting given env "pool_acquire_timeout" d.acquireTimeout number
    <*> int "introspection_workers" d.introspectionWorkers
    <*> setting given env "kpi_sum_only" d.sumOnly truth
    <*> setting given env "validate_sql" d.validateSql truth

/-- Settings given directly only. -/
def ofGiven (given : List (Value × Value)) : Except Fault Settings :=
  (check given []).orFault

end Settings
end MetricLayer
