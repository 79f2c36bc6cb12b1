import MetricLayer.Value.Text

/-!
# Writing JSON

The JSON text of a value: one line, a space after each comma and colon, ASCII only. Values
that JSON has no form for are written as their text; numbers that are not finite by name.
-/
namespace MetricLayer.Json

/-- A UTF-16 code unit as an escape. -/
def unitEscape (n : Nat) : String :=
  "\\u" ++ hexText 4 n

/-- One character of a string. -/
def escapeChar (c : Char) : String :=
  if c == '"' then "\\\""
  else if c == '\\' then "\\\\"
  else if c == '\n' then "\\n"
  else if c == '\r' then "\\r"
  else if c == '\t' then "\\t"
  else if c == '\x08' then "\\b"
  else if c == '\x0c' then "\\f"
  else if c.toNat < 0x20 || (0x7f ≤ c.toNat && c.toNat < 0x10000) then unitEscape c.toNat
  else if c.toNat < 0x7f then c.toString
  else
    let n := c.toNat - 0x10000
    unitEscape (0xd800 + n / 0x400) ++ unitEscape (0xdc00 + n % 0x400)

/-- Appends a string literal. -/
def writeString (out : String) (s : String) : String :=
  (s.foldl (fun acc c => acc ++ escapeChar c) (out.push '"')).push '"'

/-- A number by its shortest text. -/
def numberText (x : Binary) : String :=
  if x.isNaN then "NaN"
  else if x.isFinite then x.text
  else if x.isNegative then "-Infinity" else "Infinity"

/-- The text of a mapping key. -/
def keyText : Value → String
  | .null => "null"
  | .bool b => if b then "true" else "false"
  | .float x => numberText x
  | v => v.text

mutual

/-- Appends the JSON text of a value. -/
def writeValue (out : String) : Value → String
  | .null => out ++ "null"
  | .bool b => out ++ (if b then "true" else "false")
  | .int i => out ++ toString i
  | .float x => out ++ numberText x
  | .str s => writeString out s
  | .list xs => (writeItems (out.push '[') xs).push ']'
  | .tuple xs => (writeItems (out.push '[') xs).push ']'
  | .map es => (writeEntries (out.push '\x7b') es).push '\x7d'
  | v => writeString out v.text

/-- Appends items with commas between them. -/
def writeItems (out : String) : List Value → String
  | [] => out
  | [x] => writeValue out x
  | x :: xs => writeItems (writeValue out x ++ ", ") xs

/-- Appends entries with commas between them. -/
def writeEntries (out : String) : List (Value × Value) → String
  | [] => out
  | [(k, v)] => writeValue (writeString out (keyText k) ++ ": ") v
  | (k, v) :: rest => writeEntries (writeValue (writeString out (keyText k) ++ ": ") v ++ ", ") rest

end

/-- Whether a value can be a mapping key in JSON. -/
def isKey : Value → Bool
  | .null | .bool _ | .int _ | .float _ | .str _ => true
  | _ => false

mutual

/-- Whether every mapping key in a value can be written. -/
def isWritable : Value → Bool
  | .list xs => areWritable xs
  | .tuple xs => areWritable xs
  | .map es => entriesWritable es
  | _ => true

/-- Whether every item can be written. -/
def areWritable : List Value → Bool
  | [] => true
  | x :: xs => isWritable x && areWritable xs

/-- Whether every entry can be written. -/
def entriesWritable : List (Value × Value) → Bool
  | [] => true
  | (k, v) :: rest => isKey k && isWritable v && entriesWritable rest

end

/-- The JSON text of a value. -/
def write (v : Value) : String :=
  writeValue "" v

end MetricLayer.Json
