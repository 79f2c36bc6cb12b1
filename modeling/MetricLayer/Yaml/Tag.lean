import MetricLayer.Yaml.Token

/-!
# Tags

The kinds of values. A scalar without quotes and without a tag has the kind that its form
shows; versions of the language differ in a few forms.
-/
namespace MetricLayer.Yaml

/-- The kind of a value. -/
inductive Tag where
  | null
  | truth
  | integer
  | decimal
  | moment
  | merge
  | default
  | text
  | bytes
  | sequence
  | mapping
  | set
  | orderedMapping
  | pairs
  | unknown
  deriving DecidableEq, Repr

/-- The scope of the common tags. -/
def commonScope : String := "tag:yaml.org,2002:"

/-- The common tags by their names. -/
def commonTags : List (String × Tag) := [
  ("null", .null), ("bool", .truth), ("int", .integer), ("float", .decimal),
  ("timestamp", .moment), ("str", .text), ("binary", .bytes), ("seq", .sequence),
  ("map", .mapping), ("set", .set), ("omap", .orderedMapping), ("pairs", .pairs),
  ("merge", .merge), ("value", .default)]

/-- The tag of a full name. -/
def Tag.ofName (name : String) : Tag :=
  ((commonTags.find? fun t => commonScope ++ t.1 == name).map (·.2)).getD .unknown

/-! ### The forms of plain scalars -/

namespace Form

def isDigitMark (c : Char) : Bool := c.isDigit || c == '_'

/-- Non-empty, and all characters in `p`. -/
def someOf (p : Char → Bool) (cs : List Char) : Bool :=
  !cs.isEmpty && cs.all p

/-- Digits of a base below ten, with separators. -/
def inBase (base : Nat) (cs : List Char) : Bool :=
  someOf (fun c => c == '_' || (c.isDigit && c.toNat < '0'.toNat + base)) cs

def isHexMark (c : Char) : Bool :=
  isDigitMark c || ('a' ≤ c && c ≤ 'f') || ('A' ≤ c && c ≤ 'F')

/-- Groups of sixty, each after a colon. -/
def sixties : List Char → Bool
  | ':' :: a :: b :: rest =>
    if b.isDigit then
      '0' ≤ a && a ≤ '5' && (rest.isEmpty || sixties rest)
    else a.isDigit && sixties (b :: rest)
  | [':', a] => a.isDigit
  | _ => false

/-- An integer without its sign. -/
def isInteger (older : Bool) (cs : List Char) : Bool :=
  match cs with
  | '0' :: 'b' :: rest => inBase 2 rest
  | '0' :: 'x' :: rest => someOf isHexMark rest
  | '0' :: 'o' :: rest => !older && inBase 8 rest
  | c :: rest =>
    if older then
      inBase 8 cs || (c != '0' && c.isDigit && rest.all isDigitMark) ||
        (c != '0' && c.isDigit && sixties (rest.dropWhile isDigitMark))
    else someOf isDigitMark cs
  | [] => false

/-- An exponent up to the end. -/
def isExponent (signRequired : Bool) (cs : List Char) : Bool :=
  match cs with
  | c :: rest =>
    if c == 'e' || c == 'E' then
      match rest with
      | s :: ds =>
        if s == '+' || s == '-' then someOf Char.isDigit ds
        else !signRequired && someOf Char.isDigit rest
      | [] => false
    else false
  | [] => false

/-- A decimal number without its sign. -/
def isDecimal (older signed : Bool) (cs : List Char) : Bool :=
  match cs with
  | '.' :: rest =>
    let (ds, tail) := rest.span isDigitMark
    (!(older && signed) && !ds.isEmpty && (tail.isEmpty || isExponent true tail)) ||
      ["inf", "Inf", "INF"].contains (String.ofList rest) ||
      (!signed && ["nan", "NaN", "NAN"].contains (String.ofList rest))
  | c :: _ =>
    if !c.isDigit then false
    else
      let tail := cs.dropWhile isDigitMark
      match tail with
      | '.' :: rest =>
        let tail := rest.dropWhile isDigitMark
        tail.isEmpty || isExponent false tail
      | ':' :: _ =>
        let (groups, fraction) := tail.span (· != '.')
        older && sixties groups && !fraction.isEmpty && fraction.tail.all isDigitMark
      | _ => isExponent false tail
  | [] => false

/-- What follows a run of digits of one of the given lengths. -/
def afterDigits? (least most : Nat) (cs : List Char) : Option (List Char × List Char) :=
  let ds := (cs.take most).takeWhile Char.isDigit
  if least ≤ ds.length then some (ds, cs.drop ds.length) else none

/-- What follows a character. -/
def after? (c : Char) : List Char → Option (List Char)
  | d :: rest => if c == d then some rest else none
  | [] => none

/-- The digits of a written moment. -/
structure Moment where
  year : List Char
  month : List Char
  day : List Char
  /-- Hour, minute and second. -/
  time : Option (List Char × List Char × List Char) := none
  fraction : List Char := []
  /-- The sign, hours and minutes of an offset; no sign for universal time. -/
  offset : Option (Option Char × List Char × List Char) := none

/-- Reads an offset from universal time up to the end. -/
def offset? (cs : List Char) : Option (Option (Option Char × List Char × List Char)) :=
  match cs.dropWhile isGap with
  | [] => if cs.isEmpty then some none else none
  | ['Z'] => some (some (none, [], []))
  | s :: rest =>
    if s == '+' || s == '-' then do
      let (h, rest) ← afterDigits? 1 2 rest
      match rest with
      | [] => some (some (some s, h, []))
      | ':' :: rest =>
        let (m, rest) ← afterDigits? 2 2 rest
        if rest.isEmpty then some (some (some s, h, m)) else none
      | _ => none
    else none

/-- What follows the mark between day and time. -/
def afterTimeMark? : List Char → Option (List Char)
  | c :: rest =>
    if c == 'T' || c == 't' then some rest
    else if isGap c then some (rest.dropWhile isGap)
    else none
  | [] => none

/-- Reads a day, and a time if there is one. -/
def moment? (cs : List Char) : Option Moment := do
  let (year, rest) ← afterDigits? 4 4 cs
  let (month, rest) ← afterDigits? 1 2 (← after? '-' rest)
  let (day, rest) ← afterDigits? 1 2 (← after? '-' rest)
  if rest.isEmpty then return { year, month, day }
  let (hour, rest) ← afterDigits? 1 2 (← afterTimeMark? rest)
  let (minute, rest) ← afterDigits? 2 2 (← after? ':' rest)
  let (second, rest) ← afterDigits? 2 2 (← after? ':' rest)
  let (fraction, rest) := match rest with
    | '.' :: rest => rest.span Char.isDigit
    | _ => ([], rest)
  let offset ← offset? rest
  return { year, month, day, time := some (hour, minute, second), fraction, offset }

/-- Whether a text is recognised as a moment: a day alone needs all its digits. -/
def isMoment (cs : List Char) : Bool :=
  match moment? cs with
  | some m => m.time.isSome || (m.month.length == 2 && m.day.length == 2)
  | none => false

end Form

/-- The words for truth values. -/
def truthWords (older : Bool) : List String :=
  ["true", "True", "TRUE", "false", "False", "FALSE"] ++
    (if older then ["y", "Y", "yes", "Yes", "YES", "n", "N", "no", "No", "NO",
      "on", "On", "ON", "off", "Off", "OFF"] else [])

/-- The words for null. -/
def nullWords : List String := ["", "~", "null", "Null", "NULL"]

/-- The kind of a plain scalar. -/
def Tag.ofPlain (older : Bool) (s : String) : Tag :=
  let cs := s.toList
  let (signed, body) := match cs with
    | '+' :: rest => (true, rest)
    | '-' :: rest => (true, rest)
    | _ => (false, cs)
  let startsNumber := signed || cs.head?.elim false Char.isDigit
  if (truthWords older).contains s then .truth
  else if Form.isDecimal older signed body then .decimal
  else if startsNumber && Form.isInteger older body then .integer
  else if s == "<<" then .merge
  else if nullWords.contains s then .null
  else if Form.isMoment cs then .moment
  else if s == "=" then .default
  else .text

end MetricLayer.Yaml
