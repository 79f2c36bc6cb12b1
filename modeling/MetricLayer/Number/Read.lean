import MetricLayer.Number.Binary
import MetricLayer.Text.Blank
import MetricLayer.Text.Word

/-!
# Reading numbers

Integers and binary numbers from text. Three notations of integers are told apart: the fields
of a record, which take ASCII digits and an integral decimal; keys, which take the digits of
any script; and plain digit strings.
-/
namespace MetricLayer.Number

/-- The natural number written by digits of the given values. -/
def ofDigits (base : Nat) (ds : List Nat) : Nat :=
  ds.foldl (fun n d => base * n + d) 0

/-- Drops single separators `_` between characters in `p`; refuses any other `_`. -/
def joinGroups? (p : Char → Bool) : List Char → Option (List Char)
  | [] => some []
  | [c] => if p c then some [c] else none
  | c :: '_' :: d :: rest =>
    if p c && p d then (joinGroups? p (d :: rest)).map (c :: ·) else none
  | c :: rest => if p c then (joinGroups? p rest).map (c :: ·) else none

/-- An optional sign and what follows it. -/
def splitSign : List Char → Bool × List Char
  | '-' :: rest => (true, rest)
  | '+' :: rest => (false, rest)
  | cs => (false, cs)

/-- The natural number written by a non-empty text of digits in groups. -/
def groupedNat? (digit? : Char → Option Nat) (cs : List Char) : Option Nat :=
  match joinGroups? (fun c => (digit? c).isSome) cs with
  | some (c :: ds) => some (ofDigits 10 ((c :: ds).filterMap digit?))
  | _ => none

/-- The integer with the given sign and magnitude. -/
def signed (negative : Bool) (n : Nat) : Int :=
  if negative then -(n : Int) else n

/-- Drops a decimal part that consists of zeros; any other decimal part stays. -/
def dropZeroFraction (cs : List Char) : List Char :=
  match cs.span (· != '.') with
  | (whole, '.' :: zeros) => if !zeros.isEmpty && zeros.all (· == '0') then whole else cs
  | _ => cs

/-- Reads the integer of a record field: blanks around it, a sign, ASCII digits in groups, and
a decimal part of zeros are allowed. -/
def fieldInt? (s : String) : Option Int :=
  let (negative, body) := splitSign (Text.trimBy Text.isWhite s.toList)
  (groupedNat? Text.asciiDigit? (dropZeroFraction body)).map (signed negative)

/-- The longest text of digits that is read as a key. -/
def maxKeyDigits : Nat := 4300

/-- Reads the integer of a key: blanks around it, a sign, and digits of any script in groups. -/
def keyInt? (s : String) : Option Int :=
  let (negative, body) := splitSign (Text.trimBy Text.isBlank s.toList)
  if (body.filter (· != '_')).length > maxKeyDigits then none
  else (groupedNat? Text.digitValue? body).map (signed negative)

/-- The value of a text of ASCII digits, zero for the empty text. -/
def plainNat (cs : List Char) : Nat :=
  ofDigits 10 (cs.filterMap Text.asciiDigit?)

/-- An exponent part `e±digits`, if there is one; an exponent without digits is refused. -/
def exponentPart? : List Char → Option Int
  | [] => some 0
  | c :: rest =>
    if c == 'e' || c == 'E' then
      let (negative, ds) := splitSign rest
      if !ds.isEmpty && ds.all Char.isDigit then some (signed negative (plainNat ds)) else none
    else none

/-- Reads an unsigned decimal: digits with a point somewhere and an optional exponent. -/
def decimal? (negative : Bool) (cs : List Char) : Option Binary :=
  let (whole, rest) := cs.span Char.isDigit
  let (fraction, rest) := match rest with
    | '.' :: tail => tail.span Char.isDigit
    | _ => ([], rest)
  if whole.isEmpty && fraction.isEmpty then none
  else (exponentPart? rest).map fun e =>
    Binary.ofDecimal negative (plainNat (whole ++ fraction)) (e - fraction.length)

/-- Reads the number of a record field: a decimal, or a spelling of infinity or of NaN. -/
def fieldBinary? (s : String) : Option Binary :=
  let (negative, body) := splitSign (Text.trimBy Text.isWhite s.toList)
  let word := (String.ofList body).toLower
  if word == "inf" || word == "infinity" then some (Binary.infinity negative)
  else if word == "nan" then some Binary.nan
  else
    match decimal? negative body with
    | some x => some x
    | none =>
      (joinGroups? (fun c => c != '_') body).bind (decimal? negative)

/-- A natural number with a comma between groups of three digits. -/
def withCommas (n : Nat) : String :=
  let ds := (Nat.toDigits 10 n).reverse
  String.ofList ((ds.zipIdx.flatMap fun (d, i) =>
    if i != 0 && i % 3 == 0 then [',', d] else [d]).reverse)

/-- An integer with a comma between groups of three digits. -/
def signedWithCommas (i : Int) : String :=
  (if i < 0 then "-" else "") ++ withCommas i.natAbs

end MetricLayer.Number
