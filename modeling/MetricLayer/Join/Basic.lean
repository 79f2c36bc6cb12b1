import MetricLayer.Model.Semantic

/-!
# Joins

An edge joins a table to the table of a fact on one column of each. A plan says which
dimensions can be joined to which facts, over which edges, and where their columns are read.
-/
namespace MetricLayer

/-- `table.dimensionColumn = factTable.factColumn`. -/
structure JoinEdge where
  table : String
  dimensionColumn : String
  factTable : String
  factColumn : String
  deriving DecidableEq, Repr

namespace JoinEdge

/-- What tells edges apart when they are listed once each. -/
def key (e : JoinEdge) : String × String := (e.table, e.dimensionColumn)

/-- Keeps the first edge of every key. -/
def distinct (edges : List JoinEdge) : List JoinEdge :=
  edges.foldl (fun kept e => if kept.any (·.key == e.key) then kept else kept ++ [e]) []

end JoinEdge

/-- A requested dimension, where its column is read, and the facts it is joined to. -/
structure ResolvedDimension where
  dimension : Dimension
  table : String
  column : String
  factIds : List Int := []
  deriving DecidableEq, Repr

def ResolvedDimension.name (r : ResolvedDimension) : String := r.dimension.name

/-- How facts and dimensions are joined. -/
structure JoinPlan where
  base : String
  /-- The edges, one for each key. -/
  edges : List JoinEdge := []
  /-- The edges of all pairs. -/
  links : List JoinEdge := []
  dimensions : List ResolvedDimension := []
  dropped : List Dimension := []
  warnings : List String := []
  deriving DecidableEq, Repr

end MetricLayer
