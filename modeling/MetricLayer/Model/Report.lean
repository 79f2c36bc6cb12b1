import MetricLayer.Model.Semantic

/-!
# Reports

Saved projections of one table, with stored filters and links to other reports.
-/
namespace MetricLayer

/-- A projected column. -/
structure ReportColumn where
  column : String
  label : Option String := none
  dataType : Option String := none
  visible : Bool := true
  order : Int := 0
  deriving DecidableEq, Repr

/-- A stored filter. Its value is a single value or a list of alternatives. -/
structure ReportFilter where
  column : String
  operator : String := "="
  value : Value := .null
  editable : Bool := false
  order : Int := 0

/-- A link to another report: columns of a row, and the columns they filter there. -/
structure DrillTarget where
  reportId : Int
  mapping : List (String × String) := []
  label : Option String := none
  deriving DecidableEq, Repr

/-- A saved report. -/
structure Report where
  id : Int
  connectionId : Int
  ownerId : Option Int := none
  name : String
  description : Option String := none
  table : String
  columns : List ReportColumn := []
  filters : List ReportFilter := []
  drillTargets : List DrillTarget := []

namespace Report

/-- The projected columns in their order. -/
def visibleColumns (r : Report) : List ReportColumn :=
  (r.columns.filter (·.visible)).mergeSort fun c d => c.order ≤ d.order

/-- Every column a report mentions: projected, hidden or filtered. -/
def knownColumns (r : Report) : List String :=
  r.columns.map (·.column) ++ r.filters.map (·.column)

/-- The known columns, each once, sorted. -/
def sortedKnownColumns (r : Report) : List String :=
  r.knownColumns.eraseDups.mergeSort fun s t => s ≤ t

end Report

open Check FieldName

def ReportColumn.check : Value → Checked ReportColumn :=
  Check.record "ReportColumn" fun es =>
    ReportColumn.mk
      <$> required ⟨"column_name", none⟩ string es
      <*> withDefault ⟨"alias", none⟩ none (nullable string) es
      <*> withDefault ⟨"data_type", none⟩ none (nullable string) es
      <*> withDefault ⟨"visible", none⟩ true truth es
      <*> withDefault ⟨"order_index", none⟩ 0 integer es

def ReportFilter.check : Value → Checked ReportFilter :=
  Check.record "ReportFilter" fun es =>
    ReportFilter.mk
      <$> required ⟨"column_name", none⟩ string es
      <*> withDefault ⟨"operator", none⟩ "=" string es
      <*> withDefault ⟨"value", none⟩ .null anything es
      <*> withDefault ⟨"is_user_editable", some "editable"⟩ false truth es
      <*> withDefault ⟨"order_index", none⟩ 0 integer es

def DrillTarget.check : Value → Checked DrillTarget :=
  Check.record "DrillTarget" fun es =>
    DrillTarget.mk
      <$> required ⟨"target_report_id", none⟩ integer es
      <*> withDefault ⟨"mapping", some "mapping_json"⟩ [] (Check.mapping string) es
      <*> withDefault ⟨"label", none⟩ none (nullable string) es

def Report.check : Value → Checked Report :=
  Check.record "Report" fun es =>
    Report.mk
      <$> required ⟨"id", none⟩ integer es
      <*> required ⟨"connection_id", none⟩ integer es
      <*> withDefault ⟨"owner_id", none⟩ none (nullable integer) es
      <*> required ⟨"name", none⟩ string es
      <*> withDefault ⟨"description", none⟩ none (nullable string) es
      <*> required ⟨"base_table", none⟩ string es
      <*> withDefault ⟨"columns", none⟩ [] (listOf ReportColumn.check) es
      <*> withDefault ⟨"filters", none⟩ [] (listOf ReportFilter.check) es
      <*> withDefault ⟨"drill_targets", none⟩ [] (listOf DrillTarget.check) es

end MetricLayer
