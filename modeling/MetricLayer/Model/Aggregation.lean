import MetricLayer.Check.Scalar
import MetricLayer.Text.Case

/-!
# Aggregations

The functions that combine the values of a column.
-/
namespace MetricLayer

/-- An aggregate function. -/
inductive Aggregation where
  | sum
  | avg
  | count
  | min
  | max
  | median
  | stddev
  | variance
  deriving DecidableEq, Repr

namespace Aggregation

def name : Aggregation → String
  | sum => "SUM"
  | avg => "AVG"
  | count => "COUNT"
  | min => "MIN"
  | max => "MAX"
  | median => "MEDIAN"
  | stddev => "STDDEV"
  | variance => "VARIANCE"

def all : List Aggregation := [sum, avg, count, min, max, median, stddev, variance]

/-- The aggregation of a name in upper case. -/
def ofName? (s : String) : Option Aggregation :=
  all.find? (·.name == s)

/-- The aggregation of a name given exactly. -/
def ofName (s : String) : Except Fault Aggregation :=
  match ofName? s with
  | some a => .ok a
  | none => .error (.badValue (quotedText s ++ " is not a valid AggregationFunction"))

/-- The aggregation of a name in any letter case, with blanks around it. -/
def parse (raw : String) : Except Fault Aggregation :=
  match ofName? (Text.upper (Text.trim raw)) with
  | some a => .ok a
  | none =>
    .error (.badValue ("Invalid aggregate function '" ++ raw ++ "'. Must be one of " ++
      ", ".intercalate (all.map name)))

/-- The aggregation of a record field: a name in any letter case. -/
def check (v : Value) : Checked Aggregation :=
  match v with
  | .str s =>
    match ofName? (Text.upper s) with
    | some a => .passed a
    | none => .reject .enumeration
  | _ => .reject .enumeration

end Aggregation
end MetricLayer
