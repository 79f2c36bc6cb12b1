import MetricLayer.Model.Report
import MetricLayer.Plan.Query
import MetricLayer.Text.Blank

/-!
# Planning reports

The visible columns of one table, restricted by the stored filters of the report and by
filters given for one run. A value given for a run takes the place of an editable stored filter
on the same column; the other stored filters always apply. Filters without a value are left
out.
-/
namespace MetricLayer.Plan

/-- Values that do not filter: null, the empty text and a list or tuple without items. -/
def isBlankValue : Value → Bool
  | .null => true
  | .str s => s.isEmpty
  | .list vs => vs.isEmpty
  | .tuple vs => vs.isEmpty
  | _ => false

/-- Operators between a column and one value. -/
def comparisons : List String := ["=", "!=", "<>", "<", "<=", ">", ">=", "LIKE", "NOT LIKE"]

/-- Operators between a column and a list. -/
def listOperators : List String := ["IN", "NOT IN"]

/-- Comparisons that a list turns into a membership test. -/
def equalities : List String := ["=", "!=", "<>"]

/-- Operators that a list turns into the absence from the list. -/
def negations : List String := ["NOT IN", "!=", "<>"]

/-- An operator in upper case with single spaces. -/
def normalOperator (s : String) : String := Text.collapse (Text.upper s)

/-- The test that a stored filter stands for. -/
inductive Test where
  | compare (op : String) (v : Value)
  | oneOf (vs : List Value) (negated : Bool)

/-- The values a list operator is applied to. -/
def alternatives : Value → List Value
  | .list vs => vs
  | .tuple vs => vs
  | v => [v]

def isList : Value → Bool
  | .list _ => true
  | .tuple _ => true
  | _ => false

/-- The test of a stored filter, if its operator is one of those allowed for its value. -/
def Test.ofStored (f : ReportFilter) : Except Fault Test :=
  let op := normalOperator f.operator
  if isList f.value || listOperators.contains op then
    if listOperators.contains op || equalities.contains op then
      .ok (.oneOf (alternatives f.value) (negations.contains op))
    else
      .error (.failure (.invalidReference "filter operator" f.operator
        (some ("cannot be applied to a list on '" ++ f.column ++ "'"))))
  else if comparisons.contains op then .ok (.compare op f.value)
  else .error (.failure (.invalidReference "filter operator" f.operator none))

/-- The test of a value given for a run. -/
def Test.ofGiven : Value → Test
  | .list vs => .oneOf vs false
  | .tuple vs => .oneOf vs false
  | v => .compare "=" v

/-- Restricts a statement by a test of a column. -/
def Test.applyTo (t : Test) (b : Sql.Builder) (column : String) : Sql.Builder :=
  let e := Sql.Expr.column column none
  match t with
  | compare op v =>
    let (p, b) := b.bind v
    b.restrict (.binary e op p)
  | oneOf vs negated =>
    let (ps, b) := b.bindAll vs
    b.restrict (.inList e ps negated)

/-- The key of a run-time filter as the name of a known column. -/
def knownColumn (r : Report) (key : Value) : Except Fault String :=
  let unknown := Fault.failure (.invalidReference "report column" key.text
    (some ("not a column of report '" ++ r.name ++ "'")))
  match key with
  | .str s => if r.knownColumns.contains s then .ok s else .error unknown
  | _ => .error unknown

/-- The run-time filters by column, all of which the report must mention. -/
def givenFilters (r : Report) : List (Value × Value) → Except Fault (List (String × Value))
  | [] => .ok []
  | (k, v) :: rest => do
    let name ← knownColumn r k
    let rest ← givenFilters r rest
    return (name, v) :: rest

/-- The stored filters that apply beside the given ones, in their order. -/
def applicable (r : Report) (overrides : List (String × Value)) : List ReportFilter :=
  (r.filters.mergeSort fun f g => f.order ≤ g.order).filter fun f =>
    !isBlankValue f.value && !(f.editable && overrides.any (·.1 == f.column))

/-- Applies stored filters in order. -/
def applyStored (b : Sql.Builder) : List ReportFilter → Except Fault Sql.Builder
  | [] => .ok b
  | f :: fs => do
    let t ← Test.ofStored f
    applyStored (t.applyTo b f.column) fs

/-- Applies given values in order. -/
def applyGiven (b : Sql.Builder) (given : List (String × Value)) : Sql.Builder :=
  given.foldl (fun b g => (Test.ofGiven g.2).applyTo b g.1) b

/-- The `SELECT` item of a column; an empty label counts as none. -/
def reportItem (c : ReportColumn) : Sql.Expr :=
  let e := Sql.Expr.column c.column none
  match c.label with
  | some l => if l.isEmpty then e else .aliased e l
  | none => e

/-- The name a column is shown under. -/
def shownName (c : ReportColumn) : String :=
  match c.label with
  | some l => if l.isEmpty then c.column else l
  | none => c.column

/-- Plans a report with values given for one run. -/
def report (r : Report) (runtime : List (Value × Value)) : Except Fault QueryPlan := do
  let given ← givenFilters r runtime
  let overrides := given.filter fun g => !isBlankValue g.2
  let visible := r.visibleColumns
  let start : Sql.Builder := {
    columns := if visible.isEmpty then [.star none] else visible.map reportItem
    source := some ⟨r.table, none⟩ }
  let b ← applyStored start (applicable r overrides)
  let b := applyGiven b overrides
  return {
    statement := b.statement
    params := b.params
    base := r.table
    tables := [r.table]
    dimensions := visible.map shownName }

end MetricLayer.Plan
