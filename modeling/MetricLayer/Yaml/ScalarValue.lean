import MetricLayer.Text.Case
import MetricLayer.Yaml.Moment

/-!
# Values of scalars

What the text of a scalar stands for under its tag. A tag that is written may contradict the
text; such a scalar has no value.
-/
namespace MetricLayer.Yaml

/-- A text without digit separators. -/
def withoutSeparators (s : String) : List Char :=
  s.toList.filter (· != '_')

/-- The flaw of a text that is no integer of a base. -/
def notInteger (base : Nat) (cs : List Char) : Flaw :=
  .badValue (s!"invalid literal for int() with base {base}: " ++ quotedText (String.ofList cs))

/-- An integer of a base other than ten. -/
def integerInBase (base : Nat) (cs : List Char) : Except Flaw Nat :=
  match cs.mapM Json.hexValue? with
  | some ds =>
    if !ds.isEmpty && ds.all (· < base) then .ok (Number.ofDigits base ds)
    else .error (notInteger base cs)
  | none => .error (notInteger base cs)

/-- A decimal integer. -/
def decimalInteger (cs : List Char) : Except Flaw Int :=
  if Number.maxKeyDigits < cs.length && cs.all Char.isDigit then
    .error (.badValue (s!"Exceeds the limit ({Number.maxKeyDigits} digits) for integer string " ++
      s!"conversion: value has {cs.length} digits; use sys.set_int_max_str_digits() to " ++
      "increase the limit"))
  else
    match Number.keyInt? (String.ofList cs) with
    | some i => .ok i
    | none => .error (notInteger 10 cs)

/-- The parts of a text between colons. -/
def colonParts (cs : List Char) : List (List Char) :=
  cs.splitOn ':'

/-- The integer of an unsigned text. -/
def unsignedInteger (older : Bool) (cs : List Char) : Except Flaw Int := do
  match cs with
  | ['0'] => return 0
  | '0' :: 'b' :: rest => return (← integerInBase 2 rest)
  | '0' :: 'x' :: rest => return (← integerInBase 16 rest)
  | '0' :: 'o' :: rest => return (← integerInBase 8 rest)
  | [] => if older then throw .outOfBounds else decimalInteger []
  | c :: _ =>
    if older && c == '0' then return (← integerInBase 8 cs)
    else if older && cs.contains ':' then
      let parts ← (colonParts cs).mapM decimalInteger
      return parts.foldl (fun n part => n * 60 + part) 0
    else decimalInteger cs

/-- The integer of a text. -/
def integerValue (older : Bool) (s : String) : Except Flaw Value :=
  match withoutSeparators s with
  | [] => .error .outOfBounds
  | c :: rest => do
    if c == '-' then return .int (-(← unsignedInteger older rest))
    else if c == '+' then return .int (← unsignedInteger older rest)
    else return .int (← unsignedInteger older (c :: rest))

/-- A number in groups of sixty, of which the last may have a fraction. -/
def sixtiesBinary? (negative : Bool) (cs : List Char) : Option Binary := do
  let (groups, fraction) := cs.span (· != '.')
  let parts ← (colonParts groups).mapM fun p =>
    if !p.isEmpty && p.all Char.isDigit then some (Number.plainNat p) else none
  let digits := fraction.drop 1
  if !digits.all Char.isDigit then none
  else
    let whole := parts.foldl (fun n part => n * 60 + part) 0
    some (Binary.ofDecimal negative
      (whole * Nat.pow 10 digits.length + Number.plainNat digits) (-(digits.length : Int)))

/-- The number of an unsigned text, with the sign that was in front of it. -/
def unsignedBinary? (older negative : Bool) (cs : List Char) : Option Binary :=
  if String.ofList cs == ".inf" then some (.infinity negative)
  else if String.ofList cs == ".nan" then some .nan
  else if older && cs.contains ':' then sixtiesBinary? negative cs
  else
    (Number.fieldBinary? (String.ofList cs)).map fun x =>
      if negative && !x.isNaN then .ofMagnitude (!x.isNegative) x.magnitude else x

/-- The number of a text. -/
def binaryValue (older : Bool) (s : String) : Except Flaw Value :=
  match (withoutSeparators s).map Char.toLower with
  | [] => .error .outOfBounds
  | c :: rest =>
    let (negative, body) := if c == '-' then (true, rest)
      else if c == '+' then (false, rest) else (false, c :: rest)
    match unsignedBinary? older negative body with
    | some x => .ok (.float x)
    | none =>
      .error (.badValue ("could not convert string to float: " ++
        quotedText (String.ofList body)))

/-- The truth value of a word. -/
def truthValue (s : String) : Except Flaw Value :=
  let word := Text.lower s
  if ["yes", "y", "true", "on"].contains word then .ok (.bool true)
  else if ["no", "n", "false", "off"].contains word then .ok (.bool false)
  else .error .unknownName

/-- The six bits of a character of encoded bytes. -/
def sixBits? (c : Char) : Option Nat :=
  if 'A' ≤ c && c ≤ 'Z' then some (c.toNat - 'A'.toNat)
  else if 'a' ≤ c && c ≤ 'z' then some (c.toNat - 'a'.toNat + 26)
  else if c.isDigit then some (c.toNat - '0'.toNat + 52)
  else if c == '+' then some 62
  else if c == '/' then some 63
  else none

/-- Decodes bytes written as groups of four characters. Other characters are passed over.
`quad` is the place in the group, `left` holds the bits that are left of the last character,
and `pads` counts the padding. -/
def decodeBytes (acc : List UInt8) (quad left pads : Nat) :
    List Char → Except Flaw (List UInt8)
  | [] => if quad == 0 then .ok acc.reverse else .error .malformed
  | c :: rest =>
    if c == '=' then
      if 2 ≤ quad && 4 ≤ quad + pads + 1 then .ok acc.reverse
      else decodeBytes acc quad left (if 2 ≤ quad then pads + 1 else pads) rest
    else
      match sixBits? c with
      | none => decodeBytes acc quad left pads rest
      | some bits =>
        match quad with
        | 0 => decodeBytes acc 1 bits 0 rest
        | 1 => decodeBytes (UInt8.ofNat (left * 4 + bits / 16) :: acc) 2 (bits % 16) 0 rest
        | 2 => decodeBytes (UInt8.ofNat (left * 16 + bits / 4) :: acc) 3 (bits % 4) 0 rest
        | _ => decodeBytes (UInt8.ofNat (left * 64 + bits) :: acc) 0 0 0 rest

/-- The bytes of a text. -/
def bytesValue (s : String) : Except Flaw Value :=
  if s.any (fun c : Char => decide (128 ≤ c.toNat)) then .error .malformed
  else (decodeBytes [] 0 0 0 s.toList).map .bytes

/-- The value of a scalar. -/
def scalarValue (older : Bool) (tag : Tag) (s : String) : Except Flaw Value :=
  match tag with
  | .null => .ok .null
  | .truth => truthValue s
  | .integer => integerValue older s
  | .decimal => binaryValue older s
  | .moment =>
    match Form.moment? s.toList with
    | some m => momentValue m
    | none => .error .malformed
  | .text => .ok (.str s)
  | .bytes => bytesValue s
  | _ => .error .malformed

end MetricLayer.Yaml
