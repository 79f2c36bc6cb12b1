import MetricLayer.Yaml.Quoted

/-!
# Plain scalars

Texts without quotes. A plain text ends at a colon that stands alone, at a comment, and inside
brackets at a bracket or a comma; it goes on over line breaks while the lines are indented.
-/
namespace MetricLayer.Yaml

/-- How plain texts are read: inside brackets or not, and with the older rule for question
marks or not. -/
structure PlainStyle where
  inFlow : Bool
  older : Bool

/-- Characters that delimit plain texts inside brackets. -/
def isFlowMark (c : Char) : Bool :=
  c == ',' || c == '[' || c == ']' || c == '{' || c == '}'

/-- Whether a plain text goes on with a character, given the one after it. -/
def PlainStyle.goesOn (s : PlainStyle) (c : Char) (after : Option Char) : Bool :=
  if c == ':' then !standsAlone after
  else if c == '?' then !s.older || !s.inFlow
  else !standsAlone (some c) && !(s.inFlow && isFlowMark c)

/-- The length of the run of a plain text at the start of a text. -/
def PlainStyle.runLength (s : PlainStyle) : Nat → List Char → Nat
  | n, c :: rest => if s.goesOn c rest.head? then s.runLength (n + 1) rest else n
  | n, [] => n

/-- The spaces and line breaks between two runs of a plain text. -/
structure PlainGap where
  /-- What they become in the text; none if the text ends before them. -/
  text : Option (List Char)
  /-- Whether a line ended. -/
  broken : Bool
  after : Cursor

/-- Passes line breaks and spaces after a first line break: the breaks, newest first, or none
at the start or end of a document. -/
def plainBreaks : Nat → List Char → Cursor → Option (List Char) × Cursor
  | 0, acc, c => (some acc, c)
  | fuel + 1, acc, c =>
    let c := c.skip (· == ' ')
    match c.lineBreak? with
    | some (b, c) => if c.isDocumentMark then (none, c) else plainBreaks fuel (b :: acc) c
    | none => (some acc, c)

/-- Reads what stands between two runs. -/
def readPlainGap (fuel : Nat) (c : Cursor) : PlainGap :=
  let (spaces, c) := c.span (· == ' ')
  match c.lineBreak? with
  | some (b, c) =>
    if c.isDocumentMark then ⟨none, true, c⟩
    else
      let (breaks, c) := plainBreaks fuel [] c
      ⟨breaks.map fun bs => foldBreak b bs [], true, c⟩
  | none => ⟨if spaces.isEmpty then none else some spaces, false, c⟩

/-- A plain text that was read. -/
structure PlainText where
  text : String
  after : Cursor
  /-- Whether the place behind it is at the start of a line. -/
  broken : Bool

/-- Reads runs of a plain text and the gaps between them. The text so far is kept in reverse,
the last gap apart. -/
def readRuns (s : PlainStyle) (indent : Nat) :
    Nat → List Char → List Char → Bool → Cursor → PlainText
  | 0, acc, _, broken, c => ⟨String.ofList acc.reverse, c, broken⟩
  | fuel + 1, acc, gap, broken, c =>
    let run := if c.next == some '#' then 0 else s.runLength 0 c.rest
    if run == 0 then ⟨String.ofList acc.reverse, c, broken⟩
    else
      let acc := (c.rest.take run).reverse ++ gap ++ acc
      let g := readPlainGap fuel (c.advance run)
      match g.text with
      | none => ⟨String.ofList acc.reverse, g.after, g.broken⟩
      | some gap =>
        if g.after.next == some '#' || (!s.inFlow && g.after.column < indent) then
          ⟨String.ofList acc.reverse, g.after, g.broken⟩
        else readRuns s indent fuel acc gap g.broken g.after

/-- Reads a plain text whose further lines are indented by at least `indent` columns. -/
def readPlain (s : PlainStyle) (indent fuel : Nat) (c : Cursor) : PlainText :=
  readRuns s indent fuel [] [] false c

end MetricLayer.Yaml
