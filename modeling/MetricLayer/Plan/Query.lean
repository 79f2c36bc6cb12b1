import MetricLayer.Sql.Builder

/-!
# Planned queries

A statement with the values of its parameters and what it was made of.
-/
namespace MetricLayer

/-- A query that is ready to be rendered. -/
structure QueryPlan where
  statement : Sql.Select
  params : List (String × Value) := []
  base : String := ""
  tables : List String := []
  dimensions : List String := []
  measures : List String := []
  warnings : List String := []

end MetricLayer
