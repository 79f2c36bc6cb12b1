/-!
# Labels

Output labels that are told apart: the first candidate that is free, or the last one with the
least number behind it that makes it free.
-/
namespace MetricLayer

/-- A label with a number behind it. -/
def numberedLabel (base : String) (n : Nat) : String :=
  base ++ "_" ++ toString n

/-- The first free numbered label from `n` on; the fuel bounds the numbers tried. -/
def freeNumbered (taken : List String) (base : String) (n : Nat) : Nat → String
  | 0 => numberedLabel base n
  | fuel + 1 =>
    if taken.contains (numberedLabel base n) then freeNumbered taken base (n + 1) fuel
    else numberedLabel base n

/-- A label for which candidates are given. Of more numbers than there are taken labels, one
is free. -/
def uniqueLabel (taken : List String) (candidates : List String) : Option String :=
  match candidates.find? fun c => !taken.contains c with
  | some c => some c
  | none => candidates.getLast?.map fun base => freeNumbered taken base 2 taken.length

end MetricLayer
