import MetricLayer.Store.Relational

/-!
# Inserting rows

A row is given by the values of some of its columns. Columns left out take the default of the
table, and an omitted id is the next one. A row that breaks a constraint of its table is
refused.
-/
namespace MetricLayer.Relational

/-- The given columns of a row. -/
abbrev Row := List (Value × Value)

/-- What a broken constraint is reported as. -/
def broken {α : Type} : Except Fault α := .error (.database .integrity)

def optionalText (row : Row) (column : String) : Except Fault (Option String) :=
  match (Value.get? row column).getD .null with
  | .null => .ok none
  | .str s => .ok (some s)
  | _ => .error .illTyped

def optionalInt (row : Row) (column : String) (default : Option Int) :
    Except Fault (Option Int) :=
  match Value.get? row column with
  | none => .ok default
  | some .null => .ok none
  | some (.int i) => .ok (some i)
  | some (.bool b) => .ok (some (if b then 1 else 0))
  | _ => .error .illTyped

def optionalTruth (row : Row) (column : String) (default : Bool) :
    Except Fault (Option Bool) :=
  match Value.get? row column with
  | none => .ok (some default)
  | some .null => .ok none
  | some (.bool b) => .ok (some b)
  | some (.int i) => .ok (some (i != 0))
  | _ => .error .illTyped

/-- A column that must have a value. -/
def requireSome {α : Type} : Option α → Except Fault α
  | some a => .ok a
  | none => broken

def text (row : Row) (column : String) : Except Fault String := do
  requireSome (← optionalText row column)

def int (row : Row) (column : String) : Except Fault Int := do
  requireSome (← optionalInt row column none)

/-- The id of a new row, which must not be taken. -/
def newId (row : Row) (taken : List Int) : Except Fault Int := do
  let id := (← optionalInt row "id" none).getD (nextId taken)
  if taken.contains id then broken else return id

def insertConnection (r : Relational) (row : Row) : Except Fault Relational := do
  let id ← newId row (r.connections.map (·.id))
  let c : Connection := {
    id
    ownerId := some (← int row "user_id")
    name := ← text row "connection_name"
    dialect := ← text row "type"
    host := ← text row "hostname"
    port := ← int row "port"
    database := ← text row "database"
    username := ← text row "username"
    password := ← text row "password"
    selectedDb := ← optionalText row "selected_db"
    commandTimeout := ← optionalInt row "command_timeout" none
    maxConnections := ← optionalInt row "max_transport_objects" none }
  if r.connections.any (·.name == c.name) then broken
  else return { r with connections := r.connections ++ [c] }

def insertFact (r : Relational) (row : Row) : Except Fault Relational := do
  let f : FactRow := ⟨← newId row (r.facts.map (·.id)), ← int row "connection_id",
    ← text row "name", ← text row "table_name", ← text row "column_name",
    ← text row "aggregate_function"⟩
  return { r with facts := r.facts ++ [f] }

def insertDimension (r : Relational) (row : Row) : Except Fault Relational := do
  let d : Dimension := ⟨← newId row (r.dimensions.map (·.id)), ← int row "connection_id",
    ← text row "name", ← text row "table_name", ← text row "column_name"⟩
  return { r with dimensions := r.dimensions ++ [d] }

def insertMapping (r : Relational) (row : Row) : Except Fault Relational := do
  let x : Mapping := ⟨some (← newId row (r.mappings.filterMap (·.id))), ← int row "fact_id",
    ← int row "dimension_id", ← text row "join_table", ← text row "fact_column",
    ← text row "dimension_column"⟩
  if r.mappings.any (·.pair == x.pair) then broken
  else return { r with mappings := r.mappings ++ [x] }

def insertKpi (r : Relational) (row : Row) : Except Fault Relational := do
  let k : Kpi := ⟨← newId row (r.kpis.map (·.id)), ← int row "connection_id",
    ← text row "name", ← text row "expression", ← optionalText row "description"⟩
  return { r with kpis := r.kpis ++ [k] }

def insertReport (r : Relational) (row : Row) : Except Fault Relational := do
  let x : ReportRow := ⟨← newId row (r.reports.map (·.id)), ← optionalInt row "user_id" none,
    ← int row "connection_id", ← text row "name", ← optionalText row "description",
    ← text row "base_table"⟩
  return { r with reports := r.reports ++ [x] }

def insertReportColumn (r : Relational) (row : Row) : Except Fault Relational := do
  let c : ReportColumnRow := ⟨← newId row (r.reportColumns.map (·.id)),
    ← int row "report_id", ← text row "column_name", ← optionalText row "alias",
    ← optionalText row "data_type", ← optionalTruth row "visible" true,
    ← optionalInt row "order_index" (some 0)⟩
  return { r with reportColumns := r.reportColumns ++ [c] }

def insertReportFilter (r : Relational) (row : Row) : Except Fault Relational := do
  let f : ReportFilterRow := ⟨← newId row (r.reportFilters.map (·.id)),
    ← int row "report_id", ← text row "column_name", ← text row "operator",
    ← optionalText row "value", ← optionalTruth row "is_user_editable" false,
    ← optionalInt row "order_index" (some 0)⟩
  return { r with reportFilters := r.reportFilters ++ [f] }

def insertDrill (r : Relational) (row : Row) : Except Fault Relational := do
  let d : DrillRow := ⟨← newId row (r.drills.map (·.id)), ← int row "parent_report_id",
    ← int row "target_report_id", ← optionalText row "mapping_json",
    ← optionalText row "label"⟩
  return { r with drills := r.drills ++ [d] }

/-- The tables and how a row is inserted into each. -/
def tables : List (String × (Relational → Row → Except Fault Relational)) := [
  ("connections", insertConnection), ("facts", insertFact), ("dimensions", insertDimension),
  ("fact_dimensions", insertMapping), ("kpis", insertKpi), ("reports", insertReport),
  ("report_columns", insertReportColumn), ("report_filters", insertReportFilter),
  ("report_drillthrough", insertDrill)]

end MetricLayer.Relational
