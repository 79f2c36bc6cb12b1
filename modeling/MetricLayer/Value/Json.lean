import MetricLayer.Value.Basic
import MetricLayer.Number.Read

/-!
# Reading JSON

A reader of JSON texts. Besides the standard it takes `NaN`, `Infinity` and `-Infinity`. Of an
object with a repeated key, the last value stands in the first place. An integer may have at
most 4300 digits. Texts hold whole characters, so half of a pair of code units is not read.
-/
namespace MetricLayer.Json

/-- Why a text is not read. -/
inductive Flaw where
  | malformed
  | tooManyDigits (count : Nat)
  | halfPair
  deriving DecidableEq, Repr

def isSpace (c : Char) : Bool :=
  c == ' ' || c == '\t' || c == '\n' || c == '\r'

def skipSpace (cs : List Char) : List Char :=
  cs.dropWhile isSpace

/-- The longest integer that is read. -/
def maxDigits : Nat := 4300

def hexValue? (c : Char) : Option Nat :=
  if c.isDigit then some (c.toNat - '0'.toNat)
  else if 'a' ≤ c && c ≤ 'f' then some (c.toNat - 'a'.toNat + 10)
  else if 'A' ≤ c && c ≤ 'F' then some (c.toNat - 'A'.toNat + 10)
  else none

/-- The code unit of four hexadecimal digits, and what follows them. -/
def codeUnit? : List Char → Option (Nat × List Char)
  | a :: b :: c :: d :: rest => do
    let ds ← [a, b, c, d].mapM hexValue?
    some (Number.ofDigits 16 ds, rest)
  | _ => none

/-- The character an escape letter stands for. -/
def simpleEscape? : Char → Option Char
  | '"' => some '"'
  | '\\' => some '\\'
  | '/' => some '/'
  | 'b' => some '\x08'
  | 'f' => some '\x0c'
  | 'n' => some '\n'
  | 'r' => some '\r'
  | 't' => some '\t'
  | _ => none

/-- The character after `\u`: one code unit, or a pair of surrogates. A surrogate that stands
alone is no character. -/
def unicodeEscape? (cs : List Char) : Option (Option Char × List Char) := do
  let (hi, rest) ← codeUnit? cs
  if 0xd800 ≤ hi && hi < 0xdc00 then
    match rest with
    | '\\' :: 'u' :: tail =>
      match codeUnit? tail with
      | some (lo, tail) =>
        if 0xdc00 ≤ lo && lo < 0xe000 then
          return (some (Char.ofNat (0x10000 + (hi - 0xd800) * 0x400 + (lo - 0xdc00))), tail)
        else return (none, rest)
      | none => return (none, rest)
    | _ => return (none, rest)
  else if 0xdc00 ≤ hi && hi < 0xe000 then return (none, rest)
  else return (some (Char.ofNat hi), rest)

/-- Whether a surrogate stands alone somewhere in a text. The fuel bounds the characters read. -/
def escapesHalf : Nat → List Char → Bool
  | 0, _ => false
  | fuel + 1, cs =>
    match cs with
    | [] => false
    | '\\' :: 'u' :: rest =>
      match unicodeEscape? rest with
      | some (some _, rest) => escapesHalf fuel rest
      | some (none, _) => true
      | none => false
    | '\\' :: _ :: rest => escapesHalf fuel rest
    | _ :: rest => escapesHalf fuel rest

/-- Reads the rest of a string after its opening quote, with the replacement character for a
surrogate that stands alone. The fuel bounds the characters read. -/
def readString : Nat → List Char → List Char → Except Flaw (String × List Char)
  | 0, _, _ => .error .malformed
  | fuel + 1, acc, cs =>
    match cs with
    | [] => .error .malformed
    | '"' :: rest => .ok (String.ofList acc.reverse, rest)
    | '\\' :: 'u' :: rest =>
      match unicodeEscape? rest with
      | some (c, rest) => readString fuel (c.getD '\ufffd' :: acc) rest
      | none => .error .malformed
    | '\\' :: e :: rest =>
      match simpleEscape? e with
      | some c => readString fuel (c :: acc) rest
      | none => .error .malformed
    | c :: rest =>
      if c == '\\' || c.toNat < 0x20 then .error .malformed
      else readString fuel (c :: acc) rest

/-- The decimal part of a number, if a digit follows its point. -/
def fractionPart (cs : List Char) : List Char × List Char :=
  match cs with
  | '.' :: d :: rest =>
    if d.isDigit then
      let (ds, rest) := rest.span Char.isDigit
      (d :: ds, rest)
    else ([], cs)
  | _ => ([], cs)

/-- The exponent part of a number, if a digit follows its mark and sign. -/
def exponentPart (cs : List Char) : Option Int × List Char :=
  match cs with
  | c :: rest =>
    if c == 'e' || c == 'E' then
      let (negative, tail) := Number.splitSign rest
      let (ds, tail) := tail.span Char.isDigit
      if ds.isEmpty then (none, cs)
      else (some (Number.signed negative (Number.plainNat ds)), tail)
    else (none, cs)
  | [] => (none, cs)

/-- Reads an unsigned number. A leading zero stands alone. -/
def readNumber (negative : Bool) (cs : List Char) : Except Flaw (Value × List Char) :=
  let (whole, rest) := match cs with
    | '0' :: rest => (['0'], rest)
    | _ => cs.span Char.isDigit
  if whole.isEmpty then .error .malformed
  else
    let (fraction, rest) := fractionPart rest
    let (exponent, rest) := exponentPart rest
    if fraction.isEmpty && exponent.isNone then
      if whole.length > maxDigits then .error (.tooManyDigits whole.length)
      else .ok (.int (Number.signed negative (Number.plainNat whole)), rest)
    else
      .ok (.float (Binary.ofDecimal negative (Number.plainNat (whole ++ fraction))
        (exponent.getD 0 - fraction.length)), rest)

/-- What follows a literal word, if the text starts with it. -/
def afterWord? (word : String) (cs : List Char) : Option (List Char) :=
  if word.toList.isPrefixOf cs then some (cs.drop word.length) else none

/-- The literal words and their values. -/
def literals : List (String × Value) :=
  [("null", .null), ("true", .bool true), ("false", .bool false), ("NaN", .float .nan),
   ("Infinity", .float (.infinity false)), ("-Infinity", .float (.infinity true))]

/-- Reads a literal word or a number. -/
def readScalar (cs : List Char) : Except Flaw (Value × List Char) :=
  match literals.findSome? fun l => (afterWord? l.1 cs).map fun rest => (l.2, rest) with
  | some r => .ok r
  | none =>
    match cs with
    | '-' :: rest => readNumber true rest
    | _ => readNumber false cs

mutual

/-- Reads one value. The fuel bounds the nesting, the number of items and the length of texts:
two steps for each character are enough. -/
def readValue : Nat → List Char → Except Flaw (Value × List Char)
  | 0, _ => .error .malformed
  | fuel + 1, cs =>
    match cs with
    | '"' :: rest => do
      let (s, rest) ← readString fuel [] rest
      return (.str s, rest)
    | '[' :: rest =>
      match skipSpace rest with
      | ']' :: rest => .ok (.list [], rest)
      | rest => readItems fuel [] rest
    | '{' :: rest =>
      match skipSpace rest with
      | '}' :: rest => .ok (.map [], rest)
      | rest => readEntries fuel [] rest
    | _ => readScalar cs

/-- Reads the items of an array up to its end. -/
def readItems : Nat → List Value → List Char → Except Flaw (Value × List Char)
  | 0, _, _ => .error .malformed
  | fuel + 1, acc, cs => do
    let (v, rest) ← readValue fuel cs
    match skipSpace rest with
    | ']' :: rest => return (.list (v :: acc).reverse, rest)
    | ',' :: rest => readItems fuel (v :: acc) (skipSpace rest)
    | _ => .error .malformed

/-- Reads the entries of an object up to its end. -/
def readEntries : Nat → List (Value × Value) → List Char → Except Flaw (Value × List Char)
  | 0, _, _ => .error .malformed
  | fuel + 1, acc, cs =>
    match cs with
    | '"' :: rest => do
      let (k, rest) ← readString fuel [] rest
      match skipSpace rest with
      | ':' :: rest =>
        let (v, rest) ← readValue fuel (skipSpace rest)
        match skipSpace rest with
        | '}' :: rest => return (Value.ofEntries ((.str k, v) :: acc).reverse, rest)
        | ',' :: rest => readEntries fuel ((.str k, v) :: acc) (skipSpace rest)
        | _ => .error .malformed
      | _ => .error .malformed
    | _ => .error .malformed

end

/-- Reads the only value of a text. -/
def readOnly (cs : List Char) : Except Flaw Value :=
  match readValue (2 * cs.length + 2) (skipSpace cs) with
  | .ok (v, rest) => if (skipSpace rest).isEmpty then .ok v else .error .malformed
  | .error e => .error e

/-- Reads a whole text. -/
def read (s : String) : Except Flaw Value := do
  let cs := s.toList
  let v ← readOnly cs
  if escapesHalf cs.length cs then .error .halfPair else .ok v

end MetricLayer.Json
