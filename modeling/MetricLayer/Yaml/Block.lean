import MetricLayer.Yaml.Quoted

/-!
# Block scalars

Indented texts after a header. A literal text keeps its line breaks, a folded one joins lines
that start with no blank. The header says what becomes of the breaks at the end, and may fix
the indentation.
-/
namespace MetricLayer.Yaml

/-- What becomes of the line breaks at the end of a block text. -/
inductive Chomping where
  | strip
  | clip
  | keep
  deriving DecidableEq, Repr

/-- The header of a block text. -/
structure BlockHeader where
  chomping : Chomping := .clip
  increment : Option Nat := none

/-- The chomping sign at the start of a text. -/
def chompingSign? : Option Char → Option Chomping
  | some '+' => some .keep
  | some '-' => some .strip
  | _ => none

/-- The indentation digit at the start of a text. -/
def indentDigit? : Option Char → Option Nat
  | some c => if c.isDigit then some (c.toNat - '0'.toNat) else none
  | none => none

/-- Reads the sign and the digit of a header, in either order. -/
def readHeader (c : Cursor) : Except Flaw (BlockHeader × Cursor) := do
  let (header, c) : BlockHeader × Cursor :=
    match chompingSign? c.next, indentDigit? c.next with
    | some k, _ =>
      match indentDigit? c.second with
      | some n => (⟨k, some n⟩, c.advance 2)
      | none => (⟨k, none⟩, c.step)
    | none, some n =>
      match chompingSign? c.second with
      | some k => (⟨k, some n⟩, c.advance 2)
      | none => (⟨.clip, some n⟩, c.step)
    | none, none => ({}, c)
  if header.increment == some 0 || !endsWord c.next then throw .malformed
  let c := c.skip (· == ' ')
  let c := if c.next == some '#' then c.skip fun ch => !isLineEnd ch else c
  if !endsLine c.next then throw .malformed
  match c.lineBreak? with
  | some (_, c) => return (header, c)
  | none => return (header, c)

/-- Passes blank lines before the text: their breaks, newest first, the first indentation seen
at a break, and the largest one. -/
def leadingBreaks : Nat → List Char → Option Nat → Nat → Cursor →
    List Char × Option Nat × Nat × Cursor
  | 0, acc, first, largest, c => (acc, first, largest, c)
  | fuel + 1, acc, first, largest, c =>
    let c := c.skip (· == ' ')
    let largest := max largest c.column
    match c.lineBreak? with
    | some (b, after) =>
      leadingBreaks fuel (b :: acc) (first.orElse fun _ => some c.column) largest after
    | none => (acc, first, largest, c)

/-- Passes blank lines up to an indentation: their breaks, newest first. -/
def innerBreaks (indent : Nat) : Nat → List Char → Cursor → List Char × Cursor
  | 0, acc, c => (acc, c)
  | fuel + 1, acc, c =>
    let c := c.skipUpTo (· == ' ') (indent - c.column)
    match c.lineBreak? with
    | some (b, c) => innerBreaks indent fuel (b :: acc) c
    | none => (acc, c)

/-- Whether a character starts a line that is not joined with its neighbours. -/
def startsApart : Option Char → Bool
  | some c => isGap c
  | none => false

/-- How a block text is read. -/
structure BlockStyle where
  folded : Bool
  indent : Nat
  /-- Whether a document may start or end inside the text. -/
  outermost : Bool

/-- The end of a block text: its last line break, and the blank lines after it. -/
structure BlockEnd where
  text : List Char
  lastBreak : List Char
  breaks : List Char
  after : Cursor

/-- Reads the lines of a block text, kept in reverse. -/
def readLines (s : BlockStyle) : Nat → List Char → List Char → Cursor → BlockEnd
  | 0, acc, breaks, c => ⟨acc, [], breaks, c⟩
  | fuel + 1, acc, breaks, c =>
    if c.column != s.indent || c.next.isNone then ⟨acc, [], breaks, c⟩
    else
      let apart := startsApart c.next
      let (line, c) := c.span fun ch => !isLineEnd ch
      let acc := line.reverse ++ breaks ++ acc
      let (lastBreak, c) := match c.lineBreak? with
        | some (b, c) => ([b], c)
        | none => ([], c)
      let (breaks, c) := innerBreaks s.indent fuel [] c
      if (s.outermost && c.column == 0 && c.isDocumentMark) || c.column != s.indent ||
          c.next.isNone then
        ⟨acc, lastBreak, breaks, c⟩
      else if s.folded && lastBreak == ['\n'] && !apart && !startsApart c.next then
        readLines s fuel (if breaks.isEmpty then ' ' :: acc else acc) breaks c
      else readLines s fuel (lastBreak ++ acc) breaks c

/-- Reads a block text after its indicator. Its lines are indented by at least `least`
columns. -/
def readBlock (folded : Bool) (least fuel : Nat) (c : Cursor) :
    Except Flaw (String × Cursor) := do
  let (header, c) ← readHeader c
  let (indent, breaks, c) ← match header.increment with
    | none =>
      let (breaks, first, largest, c) := leadingBreaks fuel [] none 0 c
      let outdented := match first with
        | some n => 0 < n && n < largest
        | none => false
      if outdented then throw .malformed
      pure (max least largest, breaks, c)
    | some n =>
      let indent := max least 1 + n - 1
      let (breaks, c) := innerBreaks indent fuel [] c
      pure (indent, breaks, c)
  let e := readLines ⟨folded, indent, least == 0 && header.increment.isNone⟩ fuel [] breaks c
  let text := match header.chomping with
    | .strip => e.text
    | .clip => e.lastBreak ++ e.text
    | .keep => e.breaks ++ e.lastBreak ++ e.text
  return (String.ofList text.reverse, e.after)

end MetricLayer.Yaml
