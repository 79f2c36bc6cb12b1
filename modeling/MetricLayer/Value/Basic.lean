import Std.Data.HashSet
import MetricLayer.Number.Binary

/-!
# Dynamic values

The values that filters, rows and documents carry. Mappings keep the order of their entries
and may have keys of any kind. Two keys are the same if they are alike: numbers are compared
by their value, and truth values count as zero and one.
-/
namespace MetricLayer

/-- A moment of a calendar day, with an offset from universal time if one was given. -/
structure TimeOfDay where
  hour : Nat
  minute : Nat
  second : Nat
  microsecond : Nat
  offsetMinutes : Option Int
  deriving DecidableEq, Repr

/-- A calendar day. -/
structure Day where
  year : Nat
  month : Nat
  day : Nat
  deriving DecidableEq, Repr

/-- A value of a document, a row or a filter. -/
inductive Value where
  | null
  | bool (b : Bool)
  | int (i : Int)
  | float (x : Binary)
  | str (s : String)
  | list (items : List Value)
  | tuple (items : List Value)
  | map (entries : List (Value × Value))
  | date (d : Day)
  | moment (d : Day) (t : TimeOfDay)
  | bytes (bs : List UInt8)
  | set (items : List Value)
  deriving Inhabited

namespace Value

/-- The number a value counts as in comparisons: a truth value counts as zero or one. -/
def number? : Value → Option (Int ⊕ Binary)
  | .bool b => some (.inl (if b then 1 else 0))
  | .int i => some (.inl i)
  | .float x => some (.inr x)
  | _ => none

/-- Equality of numbers of either kind. -/
def sameNumber : Int ⊕ Binary → Int ⊕ Binary → Bool
  | .inl i, .inl j => i == j
  | .inl i, .inr y => y.toInt? == some i
  | .inr x, .inl j => x.toInt? == some j
  | .inr x, .inr y => x.equals y

mutual

/-- Equality of values, numbers by value and mappings regardless of order. -/
def alike : Value → Value → Bool
  | .null, .null => true
  | .str s, .str t => s == t
  | .list xs, .list ys => allAlike xs ys
  | .tuple xs, .tuple ys => allAlike xs ys
  | .map xs, .map ys => xs.length == ys.length && entriesIn xs ys
  | .date d, .date e => d == e
  | .moment d t, .moment e u => d == e && t == u
  | .bytes xs, .bytes ys => xs == ys
  | .set xs, .set ys => xs.length == ys.length && itemsIn xs ys
  | x, y =>
    match x.number?, y.number? with
    | some a, some b => sameNumber a b
    | _, _ => false

/-- Equality of lists of values, item by item. -/
def allAlike : List Value → List Value → Bool
  | [], [] => true
  | x :: xs, y :: ys => alike x y && allAlike xs ys
  | _, _ => false

/-- Whether every entry of a mapping has an alike entry in another. -/
def entriesIn : List (Value × Value) → List (Value × Value) → Bool
  | [], _ => true
  | (k, v) :: rest, ys => (ys.any fun e => alike k e.1 && alike v e.2) && entriesIn rest ys

/-- Whether every item has an alike item in another list. -/
def itemsIn : List Value → List Value → Bool
  | [], _ => true
  | x :: xs, ys => (ys.any fun y => alike x y) && itemsIn xs ys

end

/-- Whether a value counts as absent: null, false, zero, or empty. -/
def isFalsy : Value → Bool
  | .null => true
  | .bool b => !b
  | .int i => i == 0
  | .float x => x.isZero
  | .str s => s.isEmpty
  | .list xs => xs.isEmpty
  | .tuple xs => xs.isEmpty
  | .map es => es.isEmpty
  | .bytes bs => bs.isEmpty
  | .set xs => xs.isEmpty
  | .date _ => false
  | .moment _ _ => false

/-- The entry under a text key. -/
def get? (entries : List (Value × Value)) (key : String) : Option Value :=
  (entries.find? fun e => match e.1 with | .str s => s == key | _ => false).map (·.2)

/-- Adds an entry: a key already present keeps its place and takes the new value. -/
def put (entries : List (Value × Value)) (key value : Value) : List (Value × Value) :=
  match entries with
  | [] => [(key, value)]
  | (k, v) :: rest =>
    if alike k key then (k, value) :: rest else (k, v) :: put rest key value

/-- Adds entries one by one: the last value of each key, in its first place. -/
def putAll (acc entries : List (Value × Value)) : List (Value × Value) :=
  entries.foldl (fun acc e => put acc e.1 e.2) acc

/-- Whether all keys are texts that differ from each other and from those seen. -/
def haveNewTexts (seen : Std.HashSet String) : List (Value × Value) → Bool
  | [] => true
  | (.str s, _) :: rest => !seen.contains s && haveNewTexts (seen.insert s) rest
  | _ :: _ => false

/-- The size from which on a mapping is looked through for repeated keys first. -/
def manyEntries : Nat := 64

/-- The mapping with the given entries, later values in the place of earlier ones. Entries with
different texts as keys stay as they are. -/
def ofEntries (entries : List (Value × Value)) : Value :=
  if manyEntries < entries.length && haveNewTexts {} entries then .map entries
  else .map (putAll [] entries)

/-- A mapping with text keys. -/
def record (fields : List (String × Value)) : Value :=
  .map (fields.map fun f => (.str f.1, f.2))

/-- An optional value, null if it is missing. -/
def ofOption {α : Type} (f : α → Value) : Option α → Value
  | some a => f a
  | none => .null

end Value
end MetricLayer
