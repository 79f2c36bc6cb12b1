import MetricLayer.Check.Basic
import MetricLayer.Number.Read
import MetricLayer.Value.Text

/-!
# Checks of single values

Which values count as an integer, a truth value, a number, a text, a list or a mapping. The
checks are lenient: texts that spell a number or a truth value are taken, and so are numbers
of another kind with the same value.
-/
namespace MetricLayer.Check

variable {α : Type}

/-- What a value is as a text: no text at all, bytes that encode none, or a text. -/
inductive Spelling where
  | none
  | garbled
  | text (s : String)
  deriving DecidableEq, Repr

/-- The text of a text value or of bytes that encode one. -/
def spelling : Value → Spelling
  | .str s => .text s
  | .bytes bs =>
    match String.fromUTF8? ⟨bs.toArray⟩ with
    | some s => .text s
    | none => .garbled
  | _ => .none

/-- The longest text that is read as an integer. -/
def maxIntegerText : Nat := 4300

/-- An integer from a text. -/
def integerText (s : String) : Checked Int :=
  if (Text.trimBy Text.isWhite s.toList).length > maxIntegerText then .reject .intParsingSize
  else
    match Number.fieldInt? s with
    | some i => .passed i
    | none => .reject .intParsing

/-- An integer from a binary number. -/
def integerBinary (x : Binary) : Checked Int :=
  if !x.isFinite then .reject .finiteNumber
  else
    match x.toInt? with
    | some i => if i.natAbs < Nat.pow 2 63 then .passed i else .reject .intParsingSize
    | none => .reject .intFromFloat

def integer (v : Value) : Checked Int :=
  match v with
  | .int i => .passed i
  | .bool b => .passed (if b then 1 else 0)
  | .float x => integerBinary x
  | v =>
    match spelling v with
    | .text s => integerText s
    | .garbled => .reject .intParsing
    | .none => .reject .intType

/-- The spellings of true. -/
def trueWords : List String := ["1", "t", "y", "yes", "on", "true"]

/-- The spellings of false. -/
def falseWords : List String := ["0", "f", "n", "no", "off", "false"]

/-- A truth value from a text, in any letter case. -/
def truthText (s : String) : Checked Bool :=
  if trueWords.contains s.toLower then .passed true
  else if falseWords.contains s.toLower then .passed false
  else .reject .boolParsing

def truth (v : Value) : Checked Bool :=
  match v with
  | .bool b => .passed b
  | .int i =>
    if i == 1 then .passed true
    else if i == 0 then .passed false
    else if -Int.pow 2 63 ≤ i && i < Int.pow 2 63 then .reject .boolParsing
    else .reject .boolType
  | .float x =>
    if x.toInt? == some 1 then .passed true
    else if x.toInt? == some 0 then .passed false
    else .reject .boolType
  | v =>
    match spelling v with
    | .text s => truthText s
    | .garbled => .reject .boolParsing
    | .none => .reject .boolType

def number (v : Value) : Checked Binary :=
  match v with
  | .float x => .passed x
  | .int i => .passed (Binary.ofInt i)
  | .bool b => .passed (Binary.ofInt (if b then 1 else 0))
  | v =>
    match spelling v with
    | .text s =>
      match Number.fieldBinary? s with
      | some x => .passed x
      | none => .reject .floatParsing
    | .garbled => .reject .floatParsing
    | .none => .reject .floatType

def string (v : Value) : Checked String :=
  match spelling v with
  | .text s => .passed s
  | .garbled => .reject .stringUnicode
  | .none => .reject .stringType

/-- Any value at all. -/
def anything (v : Value) : Checked Value := .passed v

/-- Null, or a value that passes a check. -/
def nullable (check : Value → Checked α) (v : Value) : Checked (Option α) :=
  match v with
  | .null => .passed none
  | v => (check v).map some

/-- A list whose items pass a check. -/
def listOf (check : Value → Checked α) (v : Value) : Checked (List α) :=
  match v with
  | .list vs => Checked.items check 0 vs
  | .tuple vs => Checked.items check 0 vs
  | .set vs => Checked.items check 0 vs
  | _ => .reject .listType

/-- A list with at least one item. -/
def nonEmpty (c : Checked (List α)) : Checked (List α) :=
  match c with
  | .passed [] => .reject .tooShort
  | c => c

/-- The step that names a mapping key. -/
def keyStep : Value → LocationStep
  | .int i => if i.natAbs < Nat.pow 2 63 then .index i else .key (Value.quoted (.int i))
  | .bool b => .index (if b then 1 else 0)
  | .str s => .key s
  | v => .key v.quoted

/-- A mapping key that is a text. -/
def textKey (v : Value) : Checked String :=
  ((string v).under (.key "[key]")).under (keyStep v)

/-- The entries of a mapping with text keys. -/
def entries (check : Value → Checked α) : List (Value × Value) → Checked (List (String × α))
  | [] => .passed []
  | (k, v) :: rest =>
    (((textKey k).map fun k v rest => (k, v) :: rest).both ((check v).under (keyStep k))).both
      (entries check rest)

/-- A mapping with text keys whose values pass a check. -/
def mapping (check : Value → Checked α) (v : Value) : Checked (List (String × α)) :=
  match v with
  | .map es => entries check es
  | _ => .reject .dictType

end MetricLayer.Check
