import MetricLayer.Fault

/-!
# SQL dialects

The engines that statements are written for: how each quotes identifiers, what it supports,
and the catalog and session statements it understands.
-/
namespace MetricLayer

/-- A relational engine. -/
inductive Dialect where
  | postgres
  | mysql
  deriving DecidableEq, Repr

/-- What a dialect supports. -/
structure Capabilities where
  median : Bool
  ilike : Bool
  schemas : Bool
  deriving DecidableEq, Repr

namespace Dialect

def name : Dialect → String
  | postgres => "postgres"
  | mysql => "mysql"

/-- Every dialect, in the order of their names. -/
def all : List Dialect := [mysql, postgres]

/-- The names of all dialects, sorted. -/
def available : List String := all.map name

/-- The dialect of a given name. -/
def ofName (s : String) : Except Fault Dialect :=
  match all.find? (·.name == s) with
  | some d => .ok d
  | none => .error (.failure (.unsupportedDialect s available))

theorem ofName_name (d : Dialect) : ofName d.name = .ok d := by
  cases d <;> rfl

def capabilities : Dialect → Capabilities
  | postgres => ⟨true, true, true⟩
  | mysql => ⟨false, false, false⟩

/-- The name of the driver that connects to the engine. -/
def driver : Dialect → String
  | postgres => "postgresql+psycopg"
  | mysql => "mysql+pymysql"

/-- The character around identifiers. -/
def quoteMark : Dialect → Char
  | postgres => '"'
  | mysql => '`'

/-- A character inside a quoted identifier: the quote mark is doubled. -/
def quoteChar (d : Dialect) (c : Char) : List Char :=
  if c == d.quoteMark then [c, c] else [c]

/-- An identifier in quotes. -/
def quote (d : Dialect) (identifier : String) : String :=
  String.ofList (d.quoteMark :: (identifier.toList.flatMap d.quoteChar ++ [d.quoteMark]))

/-- The session command that makes a schema the default for unqualified names. -/
def defaultSchemaSql (d : Dialect) (schema : String) : String :=
  match d with
  | postgres => "SET search_path TO " ++ d.quote schema
  | mysql => "USE " ++ d.quote schema

/-- The schema a catalog query looks at: the one given, or that of the session. -/
def schemaSql : Dialect → String
  | postgres => "COALESCE(CAST(:table_schema AS TEXT), current_schema())"
  | mysql => "COALESCE(:table_schema, DATABASE())"

/-- The catalog query for the column names of a table, in catalog order. -/
def columnsSql (d : Dialect) : String :=
  "SELECT column_name FROM information_schema.columns WHERE table_name = :table_name " ++
    "AND table_schema = " ++ d.schemaSql ++ " ORDER BY ordinal_position"

/-- The catalog query for the base tables of a schema. -/
def tablesSql (d : Dialect) : String :=
  "SELECT table_name FROM information_schema.tables WHERE table_schema = " ++ d.schemaSql ++
    " AND table_type = 'BASE TABLE' ORDER BY table_name"

/-- The timeout argument of the driver, for a timeout in milliseconds: whole seconds, at least
one, or a fraction of seconds. -/
def connectTimeout (d : Dialect) (milliseconds : Int) : Value :=
  let seconds := Binary.ofRatio (milliseconds < 0) milliseconds.natAbs 1000
  match d with
  | postgres => .int (max 1 seconds.ceil)
  | mysql => .float seconds

/-- The arguments of the driver. -/
def connectArgs (d : Dialect) (milliseconds : Int) : List (String × Value) :=
  [("connect_timeout", d.connectTimeout milliseconds)]

end Dialect
end MetricLayer
