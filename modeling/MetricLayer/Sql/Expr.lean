import MetricLayer.Sql.Dialect
import MetricLayer.Text.Case
import MetricLayer.Value.Text

/-!
# SQL expressions

Expressions as trees, their equality, and their text in a dialect. Values supplied by users
appear as named parameters only. Two parameters are the same if their names are, whatever
their values.
-/
namespace MetricLayer.Sql

/-- An expression of a statement. -/
inductive Expr where
  /-- A constant written into the text. -/
  | constant (v : Value)
  /-- A named parameter and the value it is bound to. -/
  | param (name : String) (value : Value)
  /-- All columns, of one table if one is named. -/
  | star (table : Option String)
  | column (name : String) (table : Option String)
  | aliased (e : Expr) (label : String)
  | call (function : String) (args : List Expr) (distinct : Bool)
  | binary (left : Expr) (op : String) (right : Expr)
  | inList (e : Expr) (values : List Expr) (negated : Bool)
  /-- A fragment that is already rendered. -/
  | raw (sql : String)
  /-- A table in the place of an expression, which has no text. -/
  | source (table : String)
  deriving Inhabited

namespace Expr

mutual

/-- Equality of expressions. -/
def alike : Expr → Expr → Bool
  | constant v, constant w => v.alike w
  | param n _, param m _ => n == m
  | star t, star u => t == u
  | column n t, column m u => n == m && t == u
  | aliased e l, aliased f m => alike e f && l == m
  | call f xs d, call g ys e => f == g && allAlike xs ys && d == e
  | binary a o b, binary c p d => alike a c && o == p && alike b d
  | inList e xs n, inList f ys m => alike e f && allAlike xs ys && n == m
  | raw s, raw t => s == t
  | source t, source u => t == u
  | _, _ => false

/-- Equality of lists of expressions. -/
def allAlike : List Expr → List Expr → Bool
  | [], [] => true
  | x :: xs, y :: ys => alike x y && allAlike xs ys
  | _, _ => false

end

/-- The text of a constant. -/
def constantText : Value → String
  | .null => "NULL"
  | .bool true => "TRUE"
  | .bool false => "FALSE"
  | v => v.text

/-- How a dialect writes a function. -/
inductive Writing where
  /-- The name before its arguments. -/
  | plain
  /-- Another name, before the first argument. -/
  | renamed (name : String)
  /-- The middle value of an ordered set. -/
  | orderedMiddle
  | unsupported
  deriving DecidableEq, Repr

/-- How a function is written. The aggregates that dialects write differently are recognised
in any letter case. -/
def writing (d : Dialect) (function : String) : Writing :=
  let name := Text.upper function
  if name == "MEDIAN" then if d.capabilities.median then .orderedMiddle else .unsupported
  else if name == "STDDEV" then .renamed "STDDEV_POP"
  else if name == "VARIANCE" then .renamed "VAR_POP"
  else .plain

/-- A call with its arguments in parentheses. -/
def callText (function : String) (args : List String) (distinct : Bool) : String :=
  function ++ (if distinct then "(DISTINCT " else "(") ++ ", ".intercalate args ++ ")"

/-- A membership test. -/
def inListText (e : String) (values : List String) (negated : Bool) : String :=
  "(" ++ e ++ (if negated then " NOT IN (" else " IN (") ++ ", ".intercalate values ++ "))"

mutual

/-- The text of an expression. -/
def render (d : Dialect) : Expr → Except Fault String
  | constant v => .ok (constantText v)
  | param name _ => .ok (":" ++ name)
  | star none => .ok "*"
  | star (some t) => .ok (d.quote t ++ ".*")
  | column name none => .ok (d.quote name)
  | column name (some t) => .ok (d.quote t ++ "." ++ d.quote name)
  | aliased e label => do
    return (← render d e) ++ " AS " ++ d.quote label
  | call function args distinct =>
    match writing d function with
    | .plain => do return callText function (← renderAll d args) distinct
    | .renamed name => do return name ++ "(" ++ (← renderFirst d args) ++ ")"
    | .orderedMiddle => do
      return "PERCENTILE_CONT(0.5) WITHIN GROUP (ORDER BY " ++ (← renderFirst d args) ++ ")"
    | .unsupported => .error (.failure (.unsupportedAggregate "MEDIAN" d.name))
  | binary left op right => do
    let l ← render d left
    let r ← render d right
    return "(" ++ l ++ " " ++ op ++ " " ++ r ++ ")"
  | inList e values negated => do
    let vs ← renderAll d values
    let inner ← render d e
    return inListText inner vs negated
  | raw sql => .ok sql
  | source _ => .error (.badValue "Unknown AST node type: From")

/-- The texts of several expressions. -/
def renderAll (d : Dialect) : List Expr → Except Fault (List String)
  | [] => .ok []
  | e :: es => do
    let s ← render d e
    let rest ← renderAll d es
    return s :: rest

/-- The text of the first expression, `NULL` if there is none. -/
def renderFirst (d : Dialect) : List Expr → Except Fault String
  | [] => .ok "NULL"
  | e :: _ => render d e

end
end Expr

/-- An equality of two expressions. -/
def equality (left right : Expr) : Expr := .binary left "=" right

/-- An expression combined with itself `n` times by an operator. -/
def nested (n : Nat) (op : String) (e : Expr) : Expr :=
  Nat.rec e (fun _ acc => .binary acc op e) n

end MetricLayer.Sql
