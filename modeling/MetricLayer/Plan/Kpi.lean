import MetricLayer.Model.Semantic
import MetricLayer.Sql.Expr

/-!
# Derived metrics

An expression over the names of facts becomes SQL by putting the aggregate of a fact in the
place of its name. Names are matched as whole words and without regard to case, the longest
name first. The text is read once from left to right: what was put in is not looked at again,
and all other text stays.
-/
namespace MetricLayer.Kpi

/-- A part of an expression: a character that stays, or the text of a name. -/
inductive Piece where
  | char (c : Char)
  | name (text : List Char)
  deriving DecidableEq, Repr

/-- The facts by their names in lower case; of facts with one name the first counts. -/
def byName (facts : List Fact) : List (String × Fact) :=
  facts.foldl (fun known f =>
    let name := Text.lower f.name
    if known.any (·.1 == name) then known else known ++ [(name, f)]) []

/-- The known names, the longest first. -/
def namesByLength (known : List (String × Fact)) : List (List Char) :=
  (known.map (·.1.toList)).mergeSort fun s t => t.length ≤ s.length

/-- Whether a text is at the edge of a word. -/
def atEdge : Option Char → Bool
  | some c => !Text.isWordChar c
  | none => true

/-- The rest of a text after a name it starts with, without regard to case. -/
def afterName? : List Char → List Char → Option (List Char)
  | [], cs => some cs
  | _ :: _, [] => none
  | p :: ps, c :: cs => if Text.matchesCaseless p c then afterName? ps cs else none

/-- The first name that matches as a whole word at a place, by the length of its match. -/
def matchHere? (names : List (List Char)) (before : Option Char) (cs : List Char) :
    Option Nat :=
  if atEdge before then
    (names.find? fun n =>
      match afterName? n cs with
      | some rest => atEdge rest.head?
      | none => false).map (·.length)
  else none

/-- The character before what follows `taken`. -/
def lastOr (before : Option Char) (taken : List Char) : Option Char :=
  taken.getLast?.orElse fun _ => before

/-- Splits a text into pieces. An empty name matches once at a place, before the character
there. -/
def pieces (names : List (List Char)) (before : Option Char) (cs : List Char) : List Piece :=
  match matchHere? names before cs with
  | some (n + 1) =>
    match cs with
    | [] => []
    | c :: rest =>
      .name ((c :: rest).take (n + 1)) ::
        pieces names (lastOr before ((c :: rest).take (n + 1))) (rest.drop n)
  | some 0 =>
    match cs with
    | [] => [.name []]
    | c :: rest => .name [] :: .char c :: pieces names (some c) rest
  | none =>
    match cs with
    | [] => []
    | c :: rest => .char c :: pieces names (some c) rest
termination_by cs.length
decreasing_by all_goals simp only [List.length_cons, List.length_drop]; omega

/-- The SQL of a derived metric, and the facts it refers to, each once. -/
structure Expansion where
  sql : String
  facts : List Fact := []

/-- The aggregate of a fact. -/
def fragment (d : Dialect) (sumOnly : Bool) (f : Fact) : Except Fault String :=
  let a := if sumOnly then .sum else f.aggregation
  Sql.Expr.render d (.call a.name [.column f.column (some f.table)] false)

/-- Adds a fact unless one with its id is there. -/
def addFact (facts : List Fact) (f : Fact) : List Fact :=
  if facts.any (·.id == f.id) then facts else facts ++ [f]

/-- Adds one piece to what is expanded so far. -/
def expandPiece (d : Dialect) (sumOnly : Bool) (known : List (String × Fact)) (e : Expansion) :
    Piece → Except Fault Expansion
  | .char c => .ok { e with sql := e.sql.push c }
  | .name text =>
    match known.find? (·.1 == Text.lower (String.ofList text)) with
    | none => .error .unknownName
    | some (_, f) => do
      let s ← fragment d sumOnly f
      return ⟨e.sql ++ s, addFact e.facts f⟩

/-- Expands pieces in order. -/
def expandPieces (d : Dialect) (sumOnly : Bool) (known : List (String × Fact)) :
    Expansion → List Piece → Except Fault Expansion
  | e, [] => .ok e
  | e, p :: ps => do expandPieces d sumOnly known (← expandPiece d sumOnly known e p) ps

/-- Expands an expression over facts. It must refer to at least one of them. -/
def expand (d : Dialect) (sumOnly : Bool) (expression : String) (facts : List Fact) :
    Except Fault Expansion := do
  let known := byName facts
  if known.isEmpty then
    throw (.failure (.invalidReference "KPI expression" expression (some "no facts defined")))
  let e ← expandPieces d sumOnly known ⟨"", []⟩
    (pieces (namesByLength known) none expression.toList)
  if e.facts.isEmpty then
    throw (.failure (.invalidReference "KPI expression" expression
      (some "does not reference any known fact")))
  return e

end MetricLayer.Kpi
