/-!
# A place in a document

Documents are read character by character. A cursor knows what is left of the document and
where it stands: indentation is measured in columns, and some marks have to be on the line
they refer to. A byte order mark takes no column.
-/
namespace MetricLayer.Yaml

/-- Why a document has no value. All flaws but the first are found in documents whose form is
right: half of a pair of code units, which no text holds, a scalar that its tag does not allow,
a key that cannot be compared, or one that stands twice in an ordered mapping. -/
inductive Flaw where
  | malformed
  | halfPair
  | badValue (message : String)
  | unknownName
  | outOfBounds
  | illTyped
  | repeatedKey
  deriving DecidableEq, Repr

/-- Characters that end a line: a carriage return, a line feed, or a next-line character. -/
def isLineEnd (c : Char) : Bool :=
  c == '\n' || c == '\r' || c == '\x85'

/-- Line ends, and the line and paragraph separators. -/
def isBreak (c : Char) : Bool :=
  isLineEnd c || c == '\u2028' || c == '\u2029'

/-- Spaces and tabs. -/
def isGap (c : Char) : Bool :=
  c == ' ' || c == '\t'

/-- Whether a line ends here. -/
def endsLine : Option Char → Bool
  | none => true
  | some c => isLineEnd c

/-- Whether an indicator before this place stands alone. -/
def standsAlone : Option Char → Bool
  | none => true
  | some c => isLineEnd c || isGap c

/-- Whether a name or a number of a directive ends here. -/
def endsWord : Option Char → Bool
  | none => true
  | some c => c == ' ' || isBreak c

/-- What is left of a document, and the place it starts at. -/
structure Cursor where
  rest : List Char
  index : Nat := 0
  line : Nat := 0
  column : Nat := 0

namespace Cursor

/-- The next character. -/
def next (c : Cursor) : Option Char := c.rest.head?

/-- The character after the next one. -/
def second (c : Cursor) : Option Char := c.rest.tail.head?

/-- Passes one character. A carriage return before a line feed does not end the line. -/
def step (c : Cursor) : Cursor :=
  match c.rest with
  | [] => c
  | ch :: rest =>
    if isBreak ch && !(ch == '\r' && rest.head? == some '\n') then
      { rest, index := c.index + 1, line := c.line + 1, column := 0 }
    else
      { c with rest, index := c.index + 1
               column := if ch == '\ufeff' then c.column else c.column + 1 }

/-- Passes several characters. -/
def advance (c : Cursor) : Nat → Cursor
  | 0 => c
  | n + 1 => c.step.advance n

/-- The longest run of characters in `p`, and the place behind it. -/
def span (c : Cursor) (p : Char → Bool) : List Char × Cursor :=
  let run := c.rest.takeWhile p
  (run, c.advance run.length)

/-- Passes the characters in `p`. -/
def skip (c : Cursor) (p : Char → Bool) : Cursor :=
  (c.span p).2

/-- Passes at most `n` characters in `p`. -/
def skipUpTo (c : Cursor) (p : Char → Bool) : Nat → Cursor
  | 0 => c
  | n + 1 =>
    match c.next with
    | some ch => if p ch then c.step.skipUpTo p n else c
    | none => c

/-- Passes one line break: its character, where all line ends count as a line feed. -/
def lineBreak? (c : Cursor) : Option (Char × Cursor) :=
  match c.rest with
  | '\r' :: '\n' :: _ => some ('\n', c.advance 2)
  | ch :: _ => if isLineEnd ch then some ('\n', c.step)
               else if isBreak ch then some (ch, c.step) else none
  | [] => none

/-- Whether a mark of three equal characters stands alone here. -/
def isMark (c : Cursor) (mark : Char) : Bool :=
  match c.rest with
  | x :: y :: z :: rest => x == mark && y == mark && z == mark && standsAlone rest.head?
  | _ => false

/-- Whether a document starts or ends here, seen without regard to the column. -/
def isDocumentMark (c : Cursor) : Bool :=
  c.isMark '-' || c.isMark '.'

end Cursor
end MetricLayer.Yaml
