import MetricLayer.Text.WordTable

/-!
# Word characters

A word character is a letter, a character with a numeric value, or the underscore. Whole-word
matching looks at the neighbours of a match through this class.
-/
namespace MetricLayer.Text

/-- Membership in a list of closed ranges. -/
def inRanges (ranges : List (Nat × Nat)) (n : Nat) : Bool :=
  ranges.any fun r => r.1 ≤ n && n ≤ r.2

/-- Letters and characters with a numeric value. -/
def isLetterOrDigit (c : Char) : Bool :=
  if c.toNat < 128 then c.isAlphanum else inRanges letterOrDigitRanges c.toNat

/-- Letters, numeric characters and the underscore. -/
def isWordChar (c : Char) : Bool :=
  c == '_' || isLetterOrDigit c

/-- The value of a decimal digit of any script. -/
def digitValue? (c : Char) : Option Nat :=
  (decimalZeros.find? fun z => z ≤ c.toNat && c.toNat < z + 10).map (c.toNat - ·)

/-- The value of an ASCII digit. -/
def asciiDigit? (c : Char) : Option Nat :=
  if c.isDigit then some (c.toNat - '0'.toNat) else none

end MetricLayer.Text
