import MetricLayer.Join.Tree
import MetricLayer.Model.Request
import MetricLayer.Plan.Kpi
import MetricLayer.Plan.Label
import MetricLayer.Plan.Query

/-!
# Planning aggregate queries

Measures over a base table, with the tables of dimensions joined to it by inner joins, grouped
by the selected dimensions and restricted by filters. What cannot be reached from the base
table is left out with a warning.
-/
namespace MetricLayer.Plan

/-- A measure: its expression, and the label of its column. A raw measure carries its label
in its text. -/
structure Measure where
  expr : Sql.Expr
  label : String
  raw : Bool := false

/-- What a plan shares between its parts: the join tree and what it reaches. -/
structure Frame where
  join : JoinPlan
  edges : List JoinEdge
  reachable : List String

/-- The frame of a join plan. -/
def Frame.of (join : JoinPlan) : Frame :=
  let edges := join.edges ++ join.links
  ⟨join, edges, Join.reachable edges join.base⟩

namespace Frame

def reaches (fr : Frame) (table : String) : Bool := fr.reachable.contains table

/-- The dimensions that are read from a reachable table. -/
def kept (fr : Frame) : List ResolvedDimension :=
  fr.join.dimensions.filter fun r => fr.reaches r.table

/-- The kept dimension of an id; of several the last counts. -/
def dimension? (fr : Frame) (id : Int) : Option ResolvedDimension :=
  fr.kept.reverse.find? (·.dimension.id == id)

/-- The warnings for dimensions that are read from an unreachable table. -/
def dimensionWarnings (fr : Frame) : List String :=
  (fr.join.dimensions.filter fun r => !fr.reaches r.table).map fun r =>
    "Dimension '" ++ r.name ++ "' dropped: table '" ++ r.table ++ "' has no join path to '" ++
      fr.join.base ++ "'"

/-- The selected dimensions that are kept, each once. -/
def chosen (fr : Frame) (selected : List Int) : List ResolvedDimension :=
  selected.eraseDups.filterMap fr.dimension?

/-- The names of the selected dimensions when none of them is kept. -/
def lostNames (fr : Frame) (selected : List Int) : List String :=
  ((fr.join.dropped.filter fun d => selected.contains d.id).map (·.name)) ++
    ((fr.join.dimensions.filter fun r => selected.contains r.dimension.id).map (·.name))

end Frame

/-- The column a dimension is read from. -/
def columnOf (r : ResolvedDimension) : Sql.Expr := .column r.column (some r.table)

/-- The labels used so far and the columns selected so far. -/
structure Labels where
  taken : List String
  columns : List (String × String × String) := []

/-- Adds the column of a dimension, unless it is selected already: its table, its name and a
label of its own. -/
def Labels.add (l : Labels) (r : ResolvedDimension) : Labels :=
  if l.columns.any fun c => c.1 == r.table && c.2.1 == r.column then l
  else
    let label := (uniqueLabel l.taken [r.column, r.name]).getD r.name
    ⟨label :: l.taken, l.columns ++ [(r.table, r.column, label)]⟩

/-- The columns of the chosen dimensions, with labels that differ from those of the measures
and from each other. -/
def labelled (measures : List Measure) (chosen : List ResolvedDimension) :
    List (String × String × String) :=
  (chosen.foldl Labels.add ⟨measures.map (·.label), []⟩).columns

/-- The `SELECT` item of a measure. -/
def Measure.item (m : Measure) : Sql.Expr :=
  if m.raw then m.expr else .aliased m.expr m.label

/-- The join of a step. -/
def joinOf (s : JoinStep) : Sql.Join :=
  ⟨.inner, s.table, none, some s.condition⟩

/-- The condition of a filter: equality, or membership for a list or a tuple. -/
def filterOn (b : Sql.Builder) (e : Sql.Expr) (v : Value) : Sql.Builder :=
  match v with
  | .list vs | .tuple vs =>
    let (ps, b) := b.bindAll vs
    b.restrict (.inList e ps false)
  | v =>
    let (p, b) := b.bind v
    b.restrict (Sql.equality e p)

/-- Whether a filter names no value at all. -/
def isEmptyList : Value → Bool
  | .list [] => true
  | .tuple [] => true
  | _ => false

/-- What became of a filter: it applies to a dimension, or is ignored with a warning. -/
def filterTarget (fr : Frame) (f : Filter) : Except String ResolvedDimension :=
  match fr.dimension? f.dimensionId with
  | none => .error s!"Filter on dimension {f.dimensionId} ignored: not joinable"
  | some r =>
    if isEmptyList f.value then
      .error ("Filter on dimension '" ++ r.name ++ "' ignored: empty value list")
    else .ok r

/-- Applies filters in order, collecting the warnings of those that are ignored. -/
def applyFilters (fr : Frame) (b : Sql.Builder) :
    List Filter → Sql.Builder × List String
  | [] => (b, [])
  | f :: fs =>
    match filterTarget fr f with
    | .ok r => applyFilters fr (filterOn b (columnOf r) f.value) fs
    | .error w =>
      let (b, ws) := applyFilters fr b fs
      (b, w :: ws)

/-- The statement before its filters: columns, base table and joins. -/
def skeleton (measures : List Measure) (columns : List (String × String × String))
    (base : String) (steps : List JoinStep) : Sql.Builder where
  columns := measures.map (·.item) ++
    columns.map fun (t, c, label) => .aliased (.column c (some t)) label
  source := some ⟨base, none⟩
  joins := steps.map joinOf

/-- Puts a query together from its measures and the shared frame. -/
def assemble (fr : Frame) (measures : List Measure) (selected : List Int)
    (filters : List Filter) (warnings : List String) : Except Fault QueryPlan :=
  let warnings := warnings ++ fr.dimensionWarnings
  let chosen := fr.chosen selected
  if !selected.isEmpty && chosen.isEmpty then
    .error (.failure (.noResolvableDimensions (fr.lostNames selected) warnings))
  else
    let columns := labelled measures chosen
    let steps := Join.stepsFrom fr.edges fr.join.base
    let (b, ignored) := applyFilters fr (skeleton measures columns fr.join.base steps) filters
    let b := b.groupBy (columns.map fun (t, c, _) => .column c (some t))
    .ok {
      statement := b.statement
      params := b.params
      base := fr.join.base
      tables := fr.join.base :: steps.map (·.table)
      dimensions := chosen.map (·.name)
      measures := measures.map (·.label)
      warnings := warnings ++ ignored }

/-- The measure of a fact, with its own aggregation or another. -/
def measureOf (aggregation : Option Aggregation) (f : Fact) : Measure :=
  ⟨.call (aggregation.getD f.aggregation).name [.column f.column (some f.table)] false,
    f.name, false⟩

/-- The warning for a fact on an unreachable table. -/
def factWarning (base : String) (f : Fact) : String :=
  "Fact '" ++ f.name ++ "' dropped: table '" ++ f.table ++ "' has no join path to '" ++
    base ++ "'"

/-- Plans an aggregation of facts. -/
def facts (fs : List Fact) (join : JoinPlan) (selected : List Int) (filters : List Filter)
    (aggregation : Option Aggregation) : Except Fault QueryPlan :=
  let fr := Frame.of join
  assemble fr ((fs.filter fun f => fr.reaches f.table).map (measureOf aggregation)) selected
    filters
    (join.warnings ++
      (fs.filter fun f => !fr.reaches f.table).map (factWarning join.base))

/-- The warning for a fact of a derived metric on an unreachable table. -/
def kpiWarning (kpi base : String) (f : Fact) : String :=
  "KPI '" ++ kpi ++ "' references fact '" ++ f.name ++ "' on table '" ++ f.table ++
    "', which has no join path to '" ++ base ++ "'"

/-- The label of the column of a derived metric. -/
def kpiLabel : String := "value"

/-- Plans a derived metric. -/
def kpi (name : String) (e : Kpi.Expansion) (join : JoinPlan) (selected : List Int)
    (filters : List Filter) : Except Fault QueryPlan := do
  let fr := Frame.of join
  let plan ← assemble fr [⟨.raw (e.sql ++ " AS " ++ kpiLabel), kpiLabel, true⟩] selected filters
    (join.warnings ++
      (e.facts.filter fun f => !fr.reaches f.table).map (kpiWarning name join.base))
  return { plan with measures := [name] }

end MetricLayer.Plan
