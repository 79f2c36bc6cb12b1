import MetricLayer.Model.Aggregation

/-!
# The semantic layer

Connections to databases, the measures and attributes defined over them, and the joins and
derived metrics between those.
-/
namespace MetricLayer

/-- A database that measures are defined over. Its dialect is a plain name: whether it is
known is asked when it is needed. -/
structure Connection where
  id : Int
  ownerId : Option Int := none
  name : String := ""
  dialect : String
  host : String
  port : Int
  database : String
  username : String
  password : String
  /-- The schema of unqualified names. -/
  selectedDb : Option String := none
  /-- The connect timeout in milliseconds, if it differs from the dialect's. -/
  commandTimeout : Option Int := none
  maxConnections : Option Int := none
  deriving DecidableEq, Repr

/-- The schema that sessions on a connection are set to: its default schema, unless the name is
empty. -/
def Connection.sessionSchema? (c : Connection) : Option String :=
  c.selectedDb.filter fun schema => !schema.isEmpty

/-- A named measure: a column aggregated with a function. -/
structure Fact where
  id : Int
  connectionId : Int
  name : String
  table : String
  column : String
  aggregation : Aggregation := .sum
  deriving DecidableEq, Repr

/-- A named attribute used for grouping. -/
structure Dimension where
  id : Int
  connectionId : Int
  name : String
  table : String
  column : String
  deriving DecidableEq, Repr

/-- An explicit join between the table of a fact and the table of a dimension. -/
structure Mapping where
  id : Option Int := none
  factId : Int
  dimensionId : Int
  joinTable : String
  factColumn : String
  dimensionColumn : String
  deriving DecidableEq, Repr

/-- The pair of fact and dimension that a mapping joins. -/
def Mapping.pair (m : Mapping) : Int × Int := (m.factId, m.dimensionId)

/-- A derived metric: an expression over the names of facts. -/
structure Kpi where
  id : Int
  connectionId : Int
  name : String
  expression : String
  description : Option String := none
  deriving DecidableEq, Repr

/-- A record made of the entries of a mapping. -/
def Check.record {α : Type} (name : String) (check : List (Value × Value) → Checked α)
    (v : Value) : Checked α :=
  match v with
  | .map es => check es
  | _ => .reject (.modelType name)

open Check FieldName

def Connection.check : Value → Checked Connection :=
  Check.record "Connection" fun es =>
    Connection.mk
      <$> required ⟨"id", none⟩ integer es
      <*> withDefault ⟨"owner_id", none⟩ none (nullable integer) es
      <*> withDefault ⟨"name", none⟩ "" string es
      <*> required ⟨"dialect", some "type"⟩ string es
      <*> required ⟨"host", some "hostname"⟩ string es
      <*> required ⟨"port", none⟩ integer es
      <*> required ⟨"database", none⟩ string es
      <*> required ⟨"username", none⟩ string es
      <*> required ⟨"password", none⟩ string es
      <*> withDefault ⟨"selected_db", none⟩ none (nullable string) es
      <*> withDefault ⟨"command_timeout", none⟩ none (nullable integer) es
      <*> withDefault ⟨"max_connections", some "max_transport_objects"⟩ none (nullable integer) es

def Fact.check : Value → Checked Fact :=
  Check.record "Fact" fun es =>
    Fact.mk
      <$> required ⟨"id", none⟩ integer es
      <*> required ⟨"connection_id", none⟩ integer es
      <*> required ⟨"name", none⟩ string es
      <*> required ⟨"table", some "table_name"⟩ string es
      <*> required ⟨"column", some "column_name"⟩ string es
      <*> withDefault ⟨"aggregate_function", none⟩ .sum Aggregation.check es

def Dimension.check : Value → Checked Dimension :=
  Check.record "Dimension" fun es =>
    Dimension.mk
      <$> required ⟨"id", none⟩ integer es
      <*> required ⟨"connection_id", none⟩ integer es
      <*> required ⟨"name", none⟩ string es
      <*> required ⟨"table", some "table_name"⟩ string es
      <*> required ⟨"column", some "column_name"⟩ string es

def Mapping.check : Value → Checked Mapping :=
  Check.record "FactDimensionMapping" fun es =>
    Mapping.mk
      <$> withDefault ⟨"id", none⟩ none (nullable integer) es
      <*> required ⟨"fact_id", none⟩ integer es
      <*> required ⟨"dimension_id", none⟩ integer es
      <*> required ⟨"join_table", none⟩ string es
      <*> required ⟨"fact_column", none⟩ string es
      <*> required ⟨"dimension_column", none⟩ string es

def Kpi.check : Value → Checked Kpi :=
  Check.record "KPI" fun es =>
    Kpi.mk
      <$> required ⟨"id", none⟩ integer es
      <*> required ⟨"connection_id", none⟩ integer es
      <*> required ⟨"name", none⟩ string es
      <*> required ⟨"expression", none⟩ string es
      <*> withDefault ⟨"description", none⟩ none (nullable string) es

end MetricLayer
