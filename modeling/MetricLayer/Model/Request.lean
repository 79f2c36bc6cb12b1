import MetricLayer.Model.Semantic

/-!
# Requests

What callers may ask of the semantic layer: measures or a derived metric grouped by
dimensions, and the step from the row of a report to a linked report. A request may arrive as
a record of the program or as the body of a message; the two differ in the complaint about a
value that is no mapping.
-/
namespace MetricLayer

/-- An equality filter on a dimension; a list of values stands for any of them. -/
structure Filter where
  dimensionId : Int
  value : Value

/-- Facts grouped by dimensions. -/
structure FactQuery where
  factIds : List Int
  dimensionIds : List Int := []
  aggregation : Option Aggregation := none
  filters : List Filter := []

/-- A derived metric grouped by dimensions. -/
structure KpiQuery where
  kpiId : Int
  dimensionIds : List Int := []
  filters : List Filter := []

/-- A row of a report, to be followed into a linked report. -/
structure DrillQuery where
  targetReportId : Int
  row : List (String × Value) := []

/-- How a request arrives. -/
inductive Arrival where
  | record
  | body
  deriving DecidableEq, Repr

open Check FieldName

/-- A record in a request. -/
def Check.arriving {α : Type} (a : Arrival) (name : String)
    (check : List (Value × Value) → Checked α) (v : Value) : Checked α :=
  match v with
  | .map es => check es
  | _ => .reject (match a with | .record => .modelType name | .body => .bodyType)

def Filter.check (a : Arrival) : Value → Checked Filter :=
  Check.arriving a "QueryFilter" fun es =>
    Filter.mk
      <$> required ⟨"dimension_id", some "dimensionId"⟩ integer es
      <*> required ⟨"value", none⟩ anything es

/-- The fields of a fact query. -/
def FactQuery.fields (a : Arrival) (es : List (Value × Value)) : Checked FactQuery :=
  FactQuery.mk
    <$> required ⟨"fact_ids", some "factIds"⟩ (fun v => nonEmpty (listOf integer v)) es
    <*> withDefault ⟨"dimension_ids", some "dimensionIds"⟩ [] (listOf integer) es
    <*> withDefault ⟨"aggregation", none⟩ none (nullable Aggregation.check) es
    <*> withDefault ⟨"filters", none⟩ [] (listOf (Filter.check a)) es

def FactQuery.check (a : Arrival) : Value → Checked FactQuery :=
  Check.arriving a "FactQueryRequest" (FactQuery.fields a)

/-- The fields of a query for a derived metric. -/
def KpiQuery.fields (a : Arrival) (es : List (Value × Value)) : Checked KpiQuery :=
  KpiQuery.mk
    <$> required ⟨"kpi_id", some "kpiId"⟩ integer es
    <*> withDefault ⟨"dimension_ids", some "dimensionIds"⟩ [] (listOf integer) es
    <*> withDefault ⟨"filters", none⟩ [] (listOf (Filter.check a)) es

def KpiQuery.check (a : Arrival) : Value → Checked KpiQuery :=
  Check.arriving a "KpiQueryRequest" (KpiQuery.fields a)

def DrillQuery.check (a : Arrival) : Value → Checked DrillQuery :=
  Check.arriving a "DrillRequest" fun es =>
    DrillQuery.mk
      <$> required ⟨"target_report_id", some "targetReportId"⟩ integer es
      <*> withDefault ⟨"row", none⟩ [] (mapping anything) es

/-- A request together with the connection it is for. -/
def Check.withConnection {α : Type} (name : String)
    (fields : Arrival → List (Value × Value) → Checked α) : Value → Checked (Int × α) :=
  Check.arriving .body name fun es =>
    (fun request id => (id, request))
      <$> fields .body es
      <*> required ⟨"connection_id", some "connectionId"⟩ integer es

end MetricLayer
