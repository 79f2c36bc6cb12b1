import MetricLayer.Value.Basic
import MetricLayer.Number.Shortest

/-!
# Values as text

The plain text of a value, as it appears in labels and messages, and its quoted text, as it
appears inside another value. Days and moments have a written form of their own.
-/
namespace MetricLayer

/-- A number with at least `width` digits. -/
def padded (width n : Nat) : String :=
  let ds := Nat.toDigits 10 n
  String.ofList (List.replicate (width - ds.length) '0' ++ ds)

/-- A day as `YYYY-MM-DD`. -/
def Day.text (d : Day) : String :=
  padded 4 d.year ++ "-" ++ padded 2 d.month ++ "-" ++ padded 2 d.day

/-- An offset from universal time as `±HH:MM`. -/
def offsetText (minutes : Int) : String :=
  (if minutes < 0 then "-" else "+") ++ padded 2 (minutes.natAbs / 60) ++ ":" ++
    padded 2 (minutes.natAbs % 60)

/-- A time as `HH:MM:SS`, with microseconds and an offset if there are any. -/
def TimeOfDay.text (t : TimeOfDay) : String :=
  padded 2 t.hour ++ ":" ++ padded 2 t.minute ++ ":" ++ padded 2 t.second ++
    (if t.microsecond == 0 then "" else "." ++ padded 6 t.microsecond) ++
    (match t.offsetMinutes with | some m => offsetText m | none => "")

/-- A moment, with the given mark between day and time. -/
def momentText (mark : String) (d : Day) (t : TimeOfDay) : String :=
  d.text ++ mark ++ t.text

/-- Ranges of characters that a quoted text shows by their code. -/
def hiddenRanges : List (Nat × Nat) := [
  (0x0, 0x1f), (0x7f, 0xa0), (0xad, 0xad), (0x600, 0x605), (0x61c, 0x61c), (0x6dd, 0x6dd),
  (0x70f, 0x70f), (0x890, 0x891), (0x8e2, 0x8e2), (0x1680, 0x1680), (0x180e, 0x180e),
  (0x2000, 0x200f), (0x2028, 0x202f), (0x205f, 0x206f), (0x3000, 0x3000), (0xe000, 0xf8ff),
  (0xfeff, 0xfeff), (0xfff9, 0xfffb), (0xfffe, 0xffff), (0x110bd, 0x110bd),
  (0x110cd, 0x110cd), (0x13430, 0x13438), (0x1bca0, 0x1bca3), (0x1d173, 0x1d17a),
  (0xe0001, 0xe007f), (0xf0000, 0x10ffff)]

/-- A number in lower-case hexadecimal with at least `width` digits. -/
def hexText (width n : Nat) : String :=
  let ds := Nat.toDigits 16 n
  String.ofList (List.replicate (width - ds.length) '0' ++ ds)

/-- A character inside quotes. -/
def quotedChar (quote c : Char) : String :=
  if c == quote || c == '\\' then String.ofList ['\\', c]
  else if c == '\n' then "\\n"
  else if c == '\r' then "\\r"
  else if c == '\t' then "\\t"
  else if hiddenRanges.any fun r => r.1 ≤ c.toNat && c.toNat ≤ r.2 then
    if c.toNat < 0x100 then "\\x" ++ hexText 2 c.toNat
    else if c.toNat < 0x10000 then "\\u" ++ hexText 4 c.toNat
    else "\\U" ++ hexText 8 c.toNat
  else String.ofList [c]

/-- A text in single quotes, or in double quotes if it holds single quotes only. -/
def quotedText (s : String) : String :=
  let quote := if s.contains '\'' && !s.contains '"' then '"' else '\''
  String.ofList [quote] ++ String.join (s.toList.map (quotedChar quote)) ++ String.ofList [quote]

/-- A byte inside quotes. -/
def quotedByte (quote : Char) (b : UInt8) : String :=
  if b.toNat < 0x7f then quotedChar quote (Char.ofNat b.toNat) else "\\x" ++ hexText 2 b.toNat

/-- A byte string in quotes, marked as such. -/
def quotedBytes (bs : List UInt8) : String :=
  let quote := if bs.contains 0x27 && !bs.contains 0x22 then '"' else '\''
  "b" ++ String.ofList [quote] ++ String.join (bs.map (quotedByte quote)) ++
    String.ofList [quote]

namespace Value

mutual

/-- The text of a value inside another value. -/
def quoted : Value → String
  | .null => "None"
  | .bool b => if b then "True" else "False"
  | .int i => toString i
  | .float x => x.text
  | .str s => quotedText s
  | .list xs => "[" ++ ", ".intercalate (quotedAll xs) ++ "]"
  | .tuple xs => "(" ++ ", ".intercalate (quotedAll xs) ++ (if xs.length == 1 then ",)" else ")")
  | .map es => "\x7b" ++ ", ".intercalate (quotedEntries es) ++ "\x7d"
  | .date d => s!"datetime.date({d.year}, {d.month}, {d.day})"
  | .moment d t => s!"datetime.datetime({d.year}, {d.month}, {d.day}, {t.hour}, {t.minute})"
  | .bytes bs => quotedBytes bs
  | .set xs => if xs.isEmpty then "set()" else "\x7b" ++ ", ".intercalate (quotedAll xs) ++ "\x7d"

/-- The quoted texts of several values. -/
def quotedAll : List Value → List String
  | [] => []
  | x :: xs => quoted x :: quotedAll xs

/-- The quoted entries of a mapping. -/
def quotedEntries : List (Value × Value) → List String
  | [] => []
  | (k, v) :: rest => (quoted k ++ ": " ++ quoted v) :: quotedEntries rest

end

/-- The text of a value on its own: a text stands for itself. -/
def text : Value → String
  | .str s => s
  | .date d => d.text
  | .moment d t => momentText " " d t
  | v => v.quoted

end Value
end MetricLayer
