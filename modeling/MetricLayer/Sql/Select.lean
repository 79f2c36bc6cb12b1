import MetricLayer.Sql.Expr

/-!
# SQL statements

A `SELECT` statement as a record of its clauses, and its text: one clause a line.
-/
namespace MetricLayer.Sql

/-- How unmatched rows of a join are treated. -/
inductive JoinKind where
  | left
  | inner
  deriving DecidableEq, Repr

namespace JoinKind

def name : JoinKind → String
  | left => "LEFT"
  | inner => "INNER"

/-- The kind of a given name. -/
def ofName (s : String) : Except Fault JoinKind :=
  match [left, inner].find? (·.name == s) with
  | some k => .ok k
  | none => .error (.badValue (quotedText s ++ " is not a valid JoinType"))

end JoinKind

/-- A table of the `FROM` clause. -/
structure Source where
  table : String
  label : Option String := none

/-- A joined table. -/
structure Join where
  kind : JoinKind
  table : String
  label : Option String := none
  on : Option Expr

/-- A complete `SELECT` statement. -/
structure Select where
  columns : List Expr := []
  source : Option Source := none
  joins : List Join := []
  condition : Option Expr := none
  groups : List Expr := []
  limit : Option Int := none

/-- A table with its label; an empty label counts as none. -/
def tableText (d : Dialect) (table : String) (label : Option String) : String :=
  match label with
  | some l => if l.isEmpty then d.quote table else d.quote table ++ " AS " ++ d.quote l
  | none => d.quote table

def Source.render (d : Dialect) (s : Source) : String :=
  "FROM " ++ tableText d s.table s.label

def Join.render (d : Dialect) (j : Join) : Except Fault String := do
  let head := j.kind.name ++ " JOIN " ++ tableText d j.table j.label
  match j.on with
  | some e => return head ++ " ON " ++ (← e.render d)
  | none => return head

/-- The texts of all joins. -/
def renderJoins (d : Dialect) : List Join → Except Fault (List String)
  | [] => .ok []
  | j :: js => do
    let s ← j.render d
    let rest ← renderJoins d js
    return s :: rest

namespace Select

/-- The `SELECT` line. -/
def columnsLine (d : Dialect) (columns : List Expr) : Except Fault String := do
  if columns.isEmpty then return "SELECT *"
  return "SELECT " ++ ", ".intercalate (← Expr.renderAll d columns)

/-- The `WHERE` line, if there is a condition. -/
def conditionLines (d : Dialect) : Option Expr → Except Fault (List String)
  | some e => do return ["WHERE " ++ (← e.render d)]
  | none => return []

/-- The `GROUP BY` line, if anything is grouped. -/
def groupLines (d : Dialect) (groups : List Expr) : Except Fault (List String) := do
  if groups.isEmpty then return []
  return ["GROUP BY " ++ ", ".intercalate (← Expr.renderAll d groups)]

/-- The `LIMIT` line, if there is a limit. -/
def limitLines : Option Int → List String
  | some n => ["LIMIT " ++ toString n]
  | none => []

/-- The lines of a statement. -/
def lines (d : Dialect) (s : Select) : Except Fault (List String) := do
  let columns ← columnsLine d s.columns
  let joins ← renderJoins d s.joins
  let condition ← conditionLines d s.condition
  let groups ← groupLines d s.groups
  let source := (s.source.map (Source.render d)).toList
  return columns :: (source ++ joins ++ condition ++ groups ++ limitLines s.limit)

/-- The text of a statement. -/
def render (d : Dialect) (s : Select) : Except Fault String := do
  return "\n".intercalate (← s.lines d)

end Select
end MetricLayer.Sql
