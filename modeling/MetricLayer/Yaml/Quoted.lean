import MetricLayer.Number.Read
import MetricLayer.Value.Json
import MetricLayer.Yaml.Cursor

/-!
# Quoted scalars

Texts in single or double quotes. A line break inside becomes a space, and blank lines after
it become line feeds. Double quotes know escapes. The fuel of the functions bounds the
characters that are read.
-/
namespace MetricLayer.Yaml

/-- Passes line breaks with gaps before them: the breaks, newest first. No document may start
or end on the way. -/
def foldedBreaks : Nat → List Char → Cursor → Except Flaw (List Char × Cursor)
  | 0, _, _ => .error .malformed
  | fuel + 1, acc, c =>
    if c.isDocumentMark then .error .malformed
    else
      match (c.skip isGap).lineBreak? with
      | some (b, c) => foldedBreaks fuel (b :: acc) c
      | none => .ok (acc, c.skip isGap)

/-- What a line break and the breaks after it become, in front of a text kept in reverse. -/
def foldBreak (first : Char) (more acc : List Char) : List Char :=
  if first != '\n' then more ++ first :: acc
  else if more.isEmpty then ' ' :: acc
  else more ++ acc

/-- The characters of simple escapes. -/
def escapes : List (Char × Char) := [
  ('0', '\x00'), ('a', '\x07'), ('b', '\x08'), ('t', '\t'), ('\t', '\t'), ('n', '\n'),
  ('v', '\x0b'), ('f', '\x0c'), ('r', '\r'), ('e', '\x1b'), (' ', ' '), ('"', '"'), ('/', '/'),
  ('\\', '\\'), ('N', '\x85'), ('_', '\xa0'), ('L', '\u2028'), ('P', '\u2029')]

/-- The number of hexadecimal digits of an escape by code. -/
def codeLength? : Char → Option Nat
  | 'x' => some 2
  | 'u' => some 4
  | 'U' => some 8
  | _ => none

/-- The code written by the first digits of a text. -/
def code? (length : Nat) (cs : List Char) : Option Nat := do
  let ds ← (cs.take length).mapM Json.hexValue?
  if ds.length == length then some (Number.ofDigits 16 ds) else none

/-- The second half of a pair of code units, if it is escaped here. -/
def lowUnit? : List Char → Option Nat
  | '\\' :: 'u' :: cs => (code? 4 cs).filter fun n => 0xdc00 ≤ n && n < 0xe000
  | _ => none

/-- Whether a code is half of a pair of code units. -/
def isHalf (code : Nat) : Bool :=
  0xd800 ≤ code && code < 0xe000

/-- The character of a code, and how many more characters of the text it takes. Two halves in a
row are one character, and half of a pair is none. -/
def charOfCode (code : Nat) (rest : List Char) : Except Flaw (Char × Nat) :=
  if 0x110000 ≤ code then .error (.badValue "chr() arg not in range(0x110000)")
  else if !isHalf code then .ok (Char.ofNat code, 0)
  else
    match (lowUnit? rest).filter fun _ => code < 0xdc00 with
    | some low => .ok (Char.ofNat (0x10000 + (code - 0xd800) * 0x400 + (low - 0xdc00)), 6)
    | none => .error .halfPair

/-- Reads what follows a backslash, in front of a text kept in reverse. -/
def readEscape (fuel : Nat) (acc : List Char) (c : Cursor) :
    Except Flaw (List Char × Cursor) :=
  match c.next with
  | none => .error .malformed
  | some e =>
    match escapes.find? (·.1 == e), codeLength? e, c.lineBreak? with
    | some (_, ch), _, _ => .ok (ch :: acc, c.step)
    | none, some length, _ =>
      match code? length c.step.rest with
      | none => .error .malformed
      | some code => do
        let c := c.advance (length + 1)
        let (ch, more) ← charOfCode code c.rest
        return (ch :: acc, c.advance more)
    | none, none, some (_, c) => do
      let (breaks, c) ← foldedBreaks fuel [] c
      return (breaks ++ acc, c)
    | none, none, none => .error .malformed

/-- Reads gaps and line breaks inside quotes, in front of a text kept in reverse. -/
def readGap (fuel : Nat) (acc : List Char) (c : Cursor) : Except Flaw (List Char × Cursor) :=
  let (gap, c) := c.span isGap
  match c.next, c.lineBreak? with
  | none, _ => .error .malformed
  | some _, some (b, c) => do
    let (breaks, c) ← foldedBreaks fuel [] c
    return (foldBreak b breaks acc, c)
  | some _, none => .ok (gap.reverse ++ acc, c)

/-- Reads the rest of a quoted text after its opening quote. -/
def readQuoted (double : Bool) : Nat → List Char → Cursor → Except Flaw (String × Cursor)
  | 0, _, _ => .error .malformed
  | fuel + 1, acc, c =>
    match c.next with
    | none => .error .malformed
    | some ch =>
      if isGap ch || isBreak ch then
        match readGap fuel acc c with
        | .ok (acc, c) => readQuoted double fuel acc c
        | .error e => .error e
      else if double && ch == '\\' then
        match readEscape fuel acc c.step with
        | .ok (acc, c) => readQuoted double fuel acc c
        | .error e => .error e
      else if ch == (if double then '"' else '\'') then
        if !double && c.second == some '\'' then readQuoted double fuel ('\'' :: acc) (c.advance 2)
        else .ok (String.ofList acc.reverse, c.step)
      else readQuoted double fuel (ch :: acc) c.step

end MetricLayer.Yaml
