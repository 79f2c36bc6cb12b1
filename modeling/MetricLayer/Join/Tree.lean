import MetricLayer.Join.Basic
import MetricLayer.Sql.Select

/-!
# The join tree

Tables as nodes and edges between them. Of several edges between two tables the first counts,
in either direction, and an edge from a table to itself is left out. Tables are joined breadth
first from a base table, the neighbours of a table in the order of their edges.
-/
namespace MetricLayer

/-- Joins a table onto one that is already joined. -/
structure JoinStep where
  table : String
  column : String
  parent : String
  parentColumn : String
  deriving DecidableEq, Repr

/-- The condition of a join step. -/
def JoinStep.condition (s : JoinStep) : Sql.Expr :=
  Sql.equality (.column s.column (some s.table)) (.column s.parentColumn (some s.parent))

namespace Join

/-- Whether two edges join the same two tables. -/
def samePair (e f : JoinEdge) : Bool :=
  (e.table == f.table && e.factTable == f.factTable) ||
    (e.table == f.factTable && e.factTable == f.table)

/-- The edges that count. -/
def treeEdges (edges : List JoinEdge) : List JoinEdge :=
  edges.foldl (fun kept e =>
    if e.table == e.factTable || kept.any (samePair e) then kept else kept ++ [e]) []

/-- The step over an edge from one of its tables to the other. -/
def stepOver (parent : String) (e : JoinEdge) : Option JoinStep :=
  if e.table == parent then some ⟨e.factTable, e.factColumn, parent, e.dimensionColumn⟩
  else if e.factTable == parent then some ⟨e.table, e.dimensionColumn, parent, e.factColumn⟩
  else none

/-- The steps from a table to tables that are not joined yet. -/
def stepsOut (kept : List JoinEdge) (seen : List String) (parent : String) : List JoinStep :=
  (kept.filterMap (stepOver parent)).filter fun s => !seen.contains s.table

/-- Breadth-first steps from the tables in the queue. The fuel bounds the tables visited. -/
def breadthFirst (kept : List JoinEdge) : Nat → List String → List String → List JoinStep
  | 0, _, _ => []
  | _, [], _ => []
  | fuel + 1, parent :: queue, seen =>
    let steps := stepsOut kept seen parent
    let tables := steps.map (·.table)
    steps ++ breadthFirst kept fuel (queue ++ tables) (seen ++ tables)

/-- The order in which tables are joined to a base table. Every edge adds at most two tables. -/
def stepsFrom (edges : List JoinEdge) (base : String) : List JoinStep :=
  let kept := treeEdges edges
  breadthFirst kept (2 * kept.length + 1) [base] [base]

/-- The base table and every table that is joined to it. -/
def reachable (edges : List JoinEdge) (base : String) : List String :=
  base :: (stepsFrom edges base).map (·.table)

end Join
end MetricLayer
