import MetricLayer.Settings
import MetricLayer.Sql.Guard.Statements

/-!
# The setup of a program

What a program works with besides its data: its settings, and the parser that looks at SQL before
it is sent.
-/
namespace MetricLayer

/-- The settings of a program and its parser. -/
structure Setup extends Settings where
  parser : Sql.Parser := .grammar

end MetricLayer
