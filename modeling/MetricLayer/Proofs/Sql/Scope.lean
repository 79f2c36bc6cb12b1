import Mathlib.Data.List.Basic
import MetricLayer.Sql.Select

/-!
# The scope of statements

A statement introduces tables by its `FROM` clause and by its joins. It is well scoped if no
table is introduced twice, each join is on the table it adds and one that is there already, and
every column is qualified by a table that the statement introduces. A fragment that is already
rendered is not looked into.
-/
namespace MetricLayer.Sql
namespace Expr

mutual

/-- The columns an expression refers to, each with the table that qualifies it. -/
def references : Expr → List (String × Option String)
  | constant _ | param _ _ | raw _ | source _ => []
  | star t => [("*", t)]
  | column c t => [(c, t)]
  | aliased e _ => references e
  | call _ args _ => referencesAll args
  | binary left _ right => references left ++ references right
  | inList e values _ => references e ++ referencesAll values

/-- The columns that several expressions refer to. -/
def referencesAll : List Expr → List (String × Option String)
  | [] => []
  | e :: es => references e ++ referencesAll es

end

/-- Every column of an expression is qualified by one of the given tables. -/
def Within (tables : List String) (e : Expr) : Prop :=
  ∀ r ∈ e.references, ∃ t ∈ tables, r.2 = some t

lemma within_column {tables : List String} {t : String} (ht : t ∈ tables) (c : String) :
    Within tables (.column c (some t)) := by
  intro r hr
  simp only [references, List.mem_singleton] at hr
  exact ⟨t, ht, by rw [hr]⟩

end Expr

namespace Select

/-- The tables that the `FROM` clause and the joins introduce, in order. -/
def introduced (s : Select) : List String :=
  (s.source.map (·.table)).toList ++ s.joins.map (·.table)

/-- No table is introduced twice or under another name, joins look back, and columns are read
from tables that are there. -/
structure WellScoped (s : Select) : Prop where
  source : ∃ t, s.source = some ⟨t, none⟩
  distinct : s.introduced.Nodup
  joins : ∀ before j after, s.joins = before ++ j :: after →
    j.label = none ∧ ∃ on, j.on = some on ∧
      ∃ parent ∈ ({ s with joins := before } : Select).introduced,
        on.Within [j.table, parent]
  columns : ∀ e ∈ s.columns, e.Within s.introduced
  condition : ∀ e ∈ s.condition, e.Within s.introduced
  groups : ∀ e ∈ s.groups, e.Within s.introduced

end Select
end MetricLayer.Sql
