import MetricLayer.Sql.Guard
import MetricLayer.Sql.Guard.Grammar

/-!
# A parser by the grammar

The statements of a text are the lists of tokens between its separators. A text is parsed if all
of them are statements of the grammar.
-/
namespace MetricLayer.Sql

/-- The statements of a list of tokens, by their separators. A commented separator is a
statement of its own. -/
def splitStatements : List Token → List (List Token)
  | [] => [[]]
  | .separator commented :: rest =>
    let tail := splitStatements rest
    [] :: (if commented then [.separator true] :: tail else tail)
  | t :: rest =>
    match splitStatements rest with
    | s :: ss => (t :: s) :: ss
    | [] => [[t]]

/-- A statement between separators. -/
def parsed? : List Token → Option Parsed
  | [.separator _] => some ⟨"SEMICOLON", false, none⟩
  | ts =>
    (Grammar.kind? ts).map fun
      | .query writes => ⟨"SELECT", true, writes.head?⟩
      | .other kind => ⟨kind, false, none⟩

/-- The statements of a list of tokens, if all of them are of the grammar. -/
def statements? (ts : List Token) : Option (List (Option Parsed)) :=
  (splitStatements ts).mapM fun s => if s.isEmpty then some none else (parsed? s).map some

def isSeparator : Token → Bool
  | .separator _ => true
  | _ => false

/-- The notation of a dialect; without one it is the general notation. -/
def notationOf (d : Option Dialect) : Notation :=
  d.elim .general .ofDialect

namespace Parser

/-- What stands for the wording of a parser. -/
def wording : String := "*"

/-- The parser that knows the statements of the grammar. -/
def grammar : Parser where
  parse := fun d sql => ((tokens? (notationOf d) sql).bind statements?).elim (.error wording) .ok
  tokenize := fun d sql =>
    (tokens? (notationOf d) sql).elim (.error wording) fun ts => .ok (ts.map isSeparator)
  flaw? := fun d sql =>
    if ((tokens? (.ofDialect d) sql).bind statements?).isSome then none else some wording

end Parser
end MetricLayer.Sql
