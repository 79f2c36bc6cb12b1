import MetricLayer.Join.Resolve
import MetricLayer.Plan.Aggregate
import MetricLayer.Plan.Report
import MetricLayer.Setup
import MetricLayer.Store.Basic

/-!
# Compiling requests

A request becomes a draft once every reference in it is checked against the metadata store. A
draft says which tables have to be looked up; with their columns it becomes a statement. So
unknown references are found before any table is looked up.
-/
namespace MetricLayer

/-- What was resolved while a request was compiled. -/
structure Resolved where
  base : String := ""
  tables : List String := []
  dimensions : List String := []
  measures : List String := []
  deriving DecidableEq, Repr

/-- A compiled request. -/
structure Compiled where
  sql : String
  dialect : Dialect
  params : List (String × Value) := []
  resolved : Resolved := {}
  warnings : List String := []
  sqlValid : Bool := true

/-- What a query measures. -/
inductive Measured where
  | facts (aggregation : Option Aggregation)
  | kpi (name : String) (expansion : Kpi.Expansion)

/-- A request whose references are checked. -/
structure Draft where
  dialect : Dialect
  facts : List Fact
  dimensions : List Dimension
  mappings : List Mapping
  measured : Measured
  selected : List Int
  filters : List Filter

namespace Compile

/-- The failure for an id that is not defined on a connection. -/
def undefinedOn (kind : String) (id connectionId : Int) : Fault :=
  .failure (.invalidReference kind (toString id)
    (some s!"not defined on connection {connectionId}"))

/-- Requires every id to be among those found. -/
def requireAll (kind : String) (connectionId : Int) (ids found : List Int) :
    Except Fault Unit :=
  match ids.find? fun id => !found.contains id with
  | some id => .error (undefinedOn kind id connectionId)
  | none => .ok ()

/-- The ids of selected and filtered dimensions, each once. -/
def dimensionIds (selected : List Int) (filters : List Filter) : List Int :=
  (selected ++ filters.map (·.dimensionId)).eraseDups

/-- The dimensions a request mentions, all of which must be defined on its connection. -/
def loadDimensions (store : Store) (connectionId : Int) (selected : List Int)
    (filters : List Filter) : Except Fault (List Dimension) := do
  let ids := dimensionIds selected filters
  let found := store.dimensionsOf connectionId ids
  requireAll "dimension" connectionId ids (found.map (·.id))
  return found

/-- The draft of a fact query. -/
def draftFacts (store : Store) (c : Connection) (q : FactQuery) : Except Fault Draft := do
  let dialect ← Dialect.ofName c.dialect
  let ids := q.factIds.eraseDups
  let facts ← store.factsOf c.id ids
  requireAll "fact" c.id ids (facts.map (·.id))
  let dimensions ← loadDimensions store c.id q.dimensionIds q.filters
  let mappings := store.mappingsOf ids (some (dimensions.map (·.id)))
  return ⟨dialect, facts, dimensions, mappings, .facts q.aggregation, q.dimensionIds, q.filters⟩

/-- The draft of a query for a derived metric. -/
def draftKpi (settings : Setup) (store : Store) (c : Connection) (q : KpiQuery) :
    Except Fault Draft := do
  let dialect ← Dialect.ofName c.dialect
  match store.kpi? c.id q.kpiId with
  | none => throw (undefinedOn "KPI" q.kpiId c.id)
  | some kpi =>
    let expansion ← Kpi.expand dialect settings.sumOnly kpi.expression (← store.factsOn c.id)
    let dimensions ← loadDimensions store c.id q.dimensionIds q.filters
    let mappings := store.mappingsOf (expansion.facts.map (·.id))
      (some (dimensions.map (·.id)))
    return ⟨dialect, expansion.facts, dimensions, mappings, .kpi kpi.name expansion,
      q.dimensionIds, q.filters⟩

/-- Renders a planned query, and checks its text if the settings ask for it. -/
def render (settings : Setup) (plan : QueryPlan) (d : Dialect) : Except Fault Compiled := do
  let sql ← plan.statement.render d
  let problems := if settings.validateSql then Sql.problems settings.parser sql d.name else []
  return {
    sql, dialect := d, params := plan.params
    resolved := ⟨plan.base, plan.tables, plan.dimensions, plan.measures⟩
    warnings := plan.warnings ++ problems.map ("SQL validation: " ++ ·)
    sqlValid := problems.isEmpty }

end Compile

namespace Draft

/-- The tables whose columns a draft needs. -/
def needed (d : Draft) : List String :=
  Join.neededTables d.facts d.dimensions d.mappings

/-- The planned query of a draft, given the columns of the tables it needs. -/
def plan (d : Draft) (columns : Option Join.Columns) : Except Fault QueryPlan := do
  let join ← Join.resolve d.facts d.dimensions d.mappings columns
  match d.measured with
  | .facts aggregation => Plan.facts d.facts join d.selected d.filters aggregation
  | .kpi name expansion => Plan.kpi name expansion join d.selected d.filters

/-- Completes a draft, given the columns of the tables it needs. -/
def complete (settings : Setup) (d : Draft) (columns : Option Join.Columns) :
    Except Fault Compiled := do
  Compile.render settings (← d.plan columns) d.dialect

/-- Completes a draft with a catalog that knows the columns of every table, if there is one. -/
def completeWith (settings : Setup) (d : Draft) (catalog : Option (String → List String)) :
    Except Fault Compiled :=
  d.complete settings (catalog.map fun columns => d.needed.map fun t => (t, columns t))

end Draft

namespace Compile

/-- Compiles a fact query. -/
def facts (settings : Setup) (store : Store) (c : Connection) (q : FactQuery)
    (catalog : Option (String → List String)) : Except Fault Compiled := do
  (← draftFacts store c q).completeWith settings catalog

/-- Compiles a query for a derived metric. -/
def kpi (settings : Setup) (store : Store) (c : Connection) (q : KpiQuery)
    (catalog : Option (String → List String)) : Except Fault Compiled := do
  (← draftKpi settings store c q).completeWith settings catalog

/-- Compiles a report with filters for one run. -/
def report (settings : Setup) (r : Report) (dialect : String)
    (runtime : List (Value × Value)) : Except Fault Compiled := do
  let d ← Dialect.ofName dialect
  render settings (← Plan.report r runtime) d

end Compile
end MetricLayer
