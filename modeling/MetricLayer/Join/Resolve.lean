import MetricLayer.Join.Basic

/-!
# Resolving joins

Every pair of a fact and a dimension is resolved on its own. An explicit mapping goes first; a
dimension on the fact's table needs no join; otherwise the first column of the fact's table
that the dimension's table has too becomes the key on both sides. The columns of tables are
looked up once for all pairs that need them.
-/
namespace MetricLayer.Join

/-- The looked-up columns of tables. -/
abbrev Columns := List (String × List String)

/-- The columns of a table, none if it was not looked up. -/
def Columns.of (columns : Columns) (table : String) : List String :=
  ((columns.find? (·.1 == table)).map (·.2)).getD []

/-- The first column of the fact's table that the dimension's table has too. -/
def commonColumn (factColumns dimensionColumns : List String) : Option String :=
  factColumns.find? dimensionColumns.contains

/-- The mapping of a pair: the last one listed for it. -/
def mappingOf (mappings : List Mapping) (factId dimensionId : Int) : Option Mapping :=
  mappings.reverse.find? fun m => m.factId == factId && m.dimensionId == dimensionId

/-- What became of one pair. -/
inductive Outcome where
  /-- The pair cannot be joined. -/
  | apart (warning : Option String)
  /-- The dimension is read from a column of a table, over an edge if one is needed. -/
  | joined (edge : Option JoinEdge) (table column : String)
  deriving DecidableEq, Repr

namespace Outcome

def warning? : Outcome → Option String
  | apart w => w
  | joined .. => none

def edge? : Outcome → Option JoinEdge
  | apart _ => none
  | joined e _ _ => e

/-- The table and column a dimension is read from. -/
def display? : Outcome → Option (String × String)
  | apart _ => none
  | joined _ t c => some (t, c)

end Outcome

/-- The outcome of a pair without a mapping and on different tables. -/
def inferred (columns : Columns) (f : Fact) (d : Dimension) : Outcome :=
  let dimensionColumns := columns.of d.table
  if dimensionColumns.isEmpty then .apart none
  else if !dimensionColumns.contains d.column then
    .apart (some ("Column '" ++ d.column ++ "' of dimension '" ++ d.name ++
      "' not found in table '" ++ d.table ++ "'"))
  else
    match commonColumn (columns.of f.table) dimensionColumns with
    | some c => .joined (some ⟨d.table, c, f.table, c⟩) d.table d.column
    | none => .apart none

/-- The outcome of a pair. -/
def pair (mappings : List Mapping) (columns : Columns) (f : Fact) (d : Dimension) : Outcome :=
  match mappingOf mappings f.id d.id with
  | some m =>
    .joined (some ⟨m.joinTable, m.dimensionColumn, f.table, m.factColumn⟩) m.joinTable d.column
  | none => if d.table == f.table then .joined none f.table d.column else inferred columns f d

/-- Whether a pair can only be resolved by looking at the columns of its tables. -/
def needsColumns (mappings : List Mapping) (f : Fact) (d : Dimension) : Bool :=
  (mappingOf mappings f.id d.id).isNone && d.table != f.table

/-- The tables whose columns are needed, each once, sorted. -/
def neededTables (facts : List Fact) (dimensions : List Dimension) (mappings : List Mapping) :
    List String :=
  let tables := dimensions.flatMap fun d =>
    (facts.filter fun f => needsColumns mappings f d).flatMap fun f => [f.table, d.table]
  tables.eraseDups.mergeSort fun s t => s ≤ t

/-- The warning for a dimension that no fact is joined to. -/
def droppedWarning (d : Dimension) : String :=
  "Dimension '" ++ d.name ++ "' could not be joined to any requested fact"

/-- What became of one dimension. -/
structure Resolution where
  dimension : Dimension
  outcomes : List (Fact × Outcome)

namespace Resolution

/-- The facts a dimension is joined to, with the place it is read from for each. -/
def joined (r : Resolution) : List (Fact × String × String) :=
  r.outcomes.filterMap fun (f, o) => o.display?.map fun p => (f, p)

/-- The dimension as resolved: the first fact it is joined to decides where it is read. -/
def resolved? (r : Resolution) : Option ResolvedDimension :=
  match r.joined with
  | [] => none
  | (f, table, column) :: rest =>
    some ⟨r.dimension, table, column, f.id :: rest.map (·.1.id)⟩

def links (r : Resolution) : List JoinEdge :=
  r.outcomes.filterMap (·.2.edge?)

def warnings (r : Resolution) : List String :=
  r.outcomes.filterMap (·.2.warning?) ++
    (if r.joined.isEmpty then [droppedWarning r.dimension] else [])

end Resolution

/-- The resolution of every dimension, with all facts in order. -/
def resolutions (facts : List Fact) (dimensions : List Dimension) (mappings : List Mapping)
    (columns : Columns) : List Resolution :=
  dimensions.map fun d => ⟨d, facts.map fun f => (f, pair mappings columns f d)⟩

/-- The warning when columns are needed but cannot be looked up. -/
def noCatalogWarning : String :=
  "Schema introspection unavailable; unmapped dimensions on other tables cannot be joined"

/-- The plan over a base table. -/
def planOf (base : String) (warnings : List String) (rs : List Resolution) : JoinPlan where
  base := base
  edges := JoinEdge.distinct (rs.flatMap (·.links))
  links := rs.flatMap (·.links)
  dimensions := rs.filterMap (·.resolved?)
  dropped := (rs.filter fun r => r.joined.isEmpty).map (·.dimension)
  warnings := warnings ++ rs.flatMap (·.warnings)

/-- The plan for facts and dimensions. `columns` holds the columns of the needed tables, or is
missing if nothing can be looked up. -/
def resolve (facts : List Fact) (dimensions : List Dimension) (mappings : List Mapping)
    (columns : Option Columns) : Except Fault JoinPlan :=
  match facts with
  | [] => .error (.badValue "At least one fact is required to resolve joins")
  | base :: _ =>
    let missing := columns.isNone && !(neededTables facts dimensions mappings).isEmpty
    .ok (planOf base.table (if missing then [noCatalogWarning] else [])
      (resolutions facts dimensions mappings (columns.getD [])))

end MetricLayer.Join
