import MetricLayer.Proofs.Plan.Assembly
import MetricLayer.Proofs.Plan.Report

/-!
# The grammar of planned statements

The planners write only some of the statements that can be written: they select columns and
aggregates, join on equal columns, compare columns with parameters and group by columns.
-/
namespace MetricLayer.Plan
open Sql

/-! ### Kinds of expressions -/

/-- A column, with or without the table it is read from. -/
inductive IsColumn : Expr → Prop
  | intro (column : String) (table : Option String) : IsColumn (.column column table)

/-- What a column of the result shows: a column or an aggregate of one. -/
inductive IsValue : Expr → Prop
  | column {e : Expr} (h : IsColumn e) : IsValue e
  | aggregate (a : Aggregation) (column table : String) :
    IsValue (.call a.name [.column column (some table)] false)

/-- What stands in a `SELECT` list. -/
inductive IsItem : Expr → Prop
  | star : IsItem (.star none)
  | bare {e : Expr} (h : IsValue e) : IsItem e
  | aliased {e : Expr} (h : IsValue e) (label : String) : IsItem (.aliased e label)

/-- A numbered parameter. -/
inductive IsParam : Expr → Prop
  | intro (n : Nat) (v : Value) : IsParam (.param (paramName n) v)

/-- A test of a column. -/
inductive IsTest : Expr → Prop
  | compare {column param : Expr} {op : String} (hc : IsColumn column) (hop : op ∈ comparisons)
    (hp : IsParam param) : IsTest (.binary column op param)
  | oneOf {column : Expr} {params : List Expr} (negated : Bool) (hc : IsColumn column)
    (hp : ∀ p ∈ params, IsParam p) : IsTest (.inList column params negated)

/-- Tests combined with AND. -/
inductive IsCondition : Expr → Prop
  | test {e : Expr} (h : IsTest e) : IsCondition e
  | both {left right : Expr} (hl : IsCondition left) (hr : IsCondition right) :
    IsCondition (.binary left "AND" right)

/-- An inner join on an equality of columns. -/
inductive IsJoin : Join → Prop
  | intro (table : String) {left right : Expr} (hl : IsColumn left) (hr : IsColumn right) :
    IsJoin ⟨.inner, table, none, some (equality left right)⟩

/-- A statement that a planner may write. -/
structure Planned (s : Select) : Prop where
  columns : s.columns ≠ [] ∧ ∀ e ∈ s.columns, IsItem e
  source : ∃ table, s.source = some ⟨table, none⟩
  joins : ∀ j ∈ s.joins, IsJoin j
  condition : ∀ e, s.condition = some e → IsCondition e
  groups : ∀ e ∈ s.groups, IsColumn e
  limit : s.limit = none

/-- A statement of which all parts are within the grammar, even if it selects nothing by name. -/
structure Phrased (s : Select) : Prop where
  columns : ∀ e ∈ s.columns, IsItem e
  source : ∃ table, s.source = some ⟨table, none⟩
  joins : ∀ j ∈ s.joins, IsJoin j
  condition : ∀ e, s.condition = some e → IsCondition e
  groups : ∀ e ∈ s.groups, IsColumn e
  limit : s.limit = none

lemma Planned.phrased {s : Select} (h : Planned s) : Phrased s :=
  ⟨h.columns.2, h.source, h.joins, h.condition, h.groups, h.limit⟩

/-! ### Conditions -/

/-- A constraint of a column by a comparison that is written, or by membership. -/
structure Constraint.Allowed (c : Constraint) : Prop where
  column : IsColumn c.expr
  compare : ∀ op v, c.test = .compare op v → op ∈ comparisons

lemma isParam_of_mem_parameters {n : Nat} {vs : List Value} {e : Expr}
    (h : e ∈ parameters n vs) : IsParam e := by
  induction vs generalizing n with
  | nil => cases h
  | cons v vs ih =>
    rcases List.mem_cons.mp h with rfl | h
    · exact ⟨n, v⟩
    · exact ih h

lemma Constraint.Allowed.isTest {c : Constraint} (h : c.Allowed) (n : Nat) :
    IsTest (c.test.condition c.expr n) := by
  obtain ⟨e, t⟩ := c
  cases t with
  | compare op v => exact .compare h.column (h.compare op v rfl) ⟨n, v⟩
  | oneOf vs negated => exact .oneOf negated h.column fun p hp => isParam_of_mem_parameters hp

lemma isCondition_foldl {e : Expr} (he : IsCondition e) {es : List Expr}
    (hes : ∀ d ∈ es, IsCondition d) :
    IsCondition (es.foldl (fun c d => .binary c "AND" d) e) := by
  induction es generalizing e with
  | nil => exact he
  | cons d es ih =>
    simp only [List.mem_cons, forall_eq_or_imp] at hes
    exact ih (.both he hes.1) hes.2

/-- Allowed constraints combine to a condition. -/
lemma isCondition_conjunction {n : Nat} {cs : List Constraint} (hcs : ∀ c ∈ cs, c.Allowed)
    {e : Expr} (h : conjunction (conditions n cs) = some e) : IsCondition e := by
  have hall : ∀ d ∈ conditions n cs, IsCondition d := by
    intro d hd
    obtain ⟨c, hc, k, rfl⟩ := mem_conditions hd
    exact .test ((hcs c hc).isTest k)
  cases hconditions : conditions n cs with
  | nil => rw [hconditions] at h; cases h
  | cons d ds =>
    rw [hconditions] at h hall
    obtain rfl := Option.some.inj h
    simp only [List.mem_cons, forall_eq_or_imp] at hall
    exact isCondition_foldl hall.1 hall.2

lemma ofGiven_allowed {e : Expr} (he : IsColumn e) (v : Value) :
    (⟨e, Test.ofGiven v⟩ : Constraint).Allowed := by
  refine ⟨he, ?_⟩
  intro op w h
  cases v <;> cases h <;> decide

lemma storedConstraint_allowed {s : ReportFilter × Test} (h : Test.ofStored s.1 = .ok s.2) :
    (storedConstraint s).Allowed := by
  refine ⟨⟨s.1.column, none⟩, ?_⟩
  intro op v hv
  change s.2 = .compare op v at hv
  rcases ofStored_ok h with ⟨op', hop, heq, _⟩ | ⟨negated, heq⟩
  · rw [heq] at hv
    cases hv
    exact hop
  · rw [heq] at hv
    cases hv

/-! ### Statements of the planners -/

lemma isItem_measure (aggregation : Option Aggregation) (f : Fact) :
    IsItem (measureOf aggregation f).item :=
  .aliased (.aggregate _ f.column f.table) f.name

/-- What a planned aggregation selects, joins, tests and groups by is within the grammar. -/
theorem facts_phrased {fs : List Fact} {join : JoinPlan} {selected : List Int}
    {filters : List Filter} {aggregation : Option Aggregation} {p : QueryPlan}
    (h : facts fs join selected filters aggregation = .ok p) : Phrased p.statement := by
  rw [facts_ok h]
  refine ⟨?_, ⟨join.base, rfl⟩, ?_, ?_, ?_, rfl⟩
  · intro e he
    rcases List.mem_append.mp he with he | he
    · obtain ⟨m, hm, rfl⟩ := List.mem_map.mp he
      obtain ⟨f, _, rfl⟩ := List.mem_map.mp hm
      exact isItem_measure aggregation f
    · obtain ⟨c, _, rfl⟩ := List.mem_map.mp he
      exact .aliased (.column ⟨c.2.1, some c.1⟩) c.2.2
  · intro j hj
    obtain ⟨s, _, rfl⟩ := List.mem_map.mp hj
    exact ⟨s.table, ⟨s.column, some s.table⟩, ⟨s.parentColumn, some s.parent⟩⟩
  · intro e he
    refine isCondition_conjunction ?_ he
    intro c hc
    obtain ⟨f, _, r, _, rfl⟩ := mem_applied hc
    exact ofGiven_allowed ⟨r.column, some r.table⟩ f.value
  · intro e he
    obtain ⟨q, _, rfl⟩ := List.mem_map.mp he
    exact ⟨q.2, some q.1⟩

/-- A planned aggregation that selects something is within the grammar. -/
theorem facts_planned {fs : List Fact} {join : JoinPlan} {selected : List Int}
    {filters : List Filter} {aggregation : Option Aggregation} {p : QueryPlan}
    (h : facts fs join selected filters aggregation = .ok p)
    (hcolumns : p.statement.columns ≠ []) : Planned p.statement :=
  have hw := facts_phrased h
  ⟨⟨hcolumns, hw.columns⟩, hw.source, hw.joins, hw.condition, hw.groups, hw.limit⟩

lemma isItem_reportItem (c : ReportColumn) : IsItem (reportItem c) := by
  have hcolumn : IsValue (.column c.column none) := .column ⟨c.column, none⟩
  unfold reportItem
  cases c.label with
  | none => exact .bare hcolumn
  | some label =>
    simp only
    split
    · exact .bare hcolumn
    · exact .aliased hcolumn label

/-- A planned report is within the grammar. -/
theorem report_planned {r : Report} {runtime : List (Value × Value)} {p : QueryPlan}
    (h : report r runtime = .ok p) : Planned p.statement := by
  obtain ⟨stored, given, hp, hstatement⟩ := report_ok h
  rw [hstatement]
  refine ⟨?_, ⟨r.table, rfl⟩, ?_, ?_, ?_, rfl⟩
  · change (projection r).columns ≠ [] ∧ ∀ e ∈ (projection r).columns, IsItem e
    unfold projection
    simp only
    split
    · exact ⟨by simp, by simpa using IsItem.star⟩
    · rename_i hvisible
      refine ⟨by simpa using hvisible, ?_⟩
      intro e he
      obtain ⟨c, _, rfl⟩ := List.mem_map.mp he
      exact isItem_reportItem c
  · intro j hj
    cases hj
  · intro e he
    refine isCondition_conjunction ?_ he
    intro c hc
    rcases List.mem_append.mp hc with hc | hc
    · obtain ⟨s, hs, rfl⟩ := List.mem_map.mp hc
      exact storedConstraint_allowed (hp.tests s hs).1
    · obtain ⟨g, _, rfl⟩ := List.mem_map.mp hc
      exact ofGiven_allowed ⟨g.1, none⟩ g.2
  · intro e he
    cases he

end MetricLayer.Plan
