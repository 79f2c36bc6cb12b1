import MetricLayer.Proofs.Plan.Grammar
import MetricLayer.Proofs.Sql.Spelling

/-!
# The operators of reports

A report is planned unless a value is given for a column it does not mention, or a stored filter
that applies has an operator that is not allowed for its value. The operators of a planned
statement are among the allowed ones: a stored filter is written with its operator in normal
form, or as a membership test.
-/
namespace MetricLayer
namespace Sql

/-! ### Operators of statements -/

mutual

/-- The operators of an expression, from left to right. A fragment that is already rendered is
not looked into. -/
def Expr.operators : Expr → List String
  | .constant _ | .param _ _ | .star _ | .column _ _ | .raw _ | .source _ => []
  | .aliased e _ => e.operators
  | .call _ args _ => Expr.operatorsAll args
  | .binary left op right => left.operators ++ op :: right.operators
  | .inList e values negated =>
    e.operators ++ (if negated then "NOT IN" else "IN") :: Expr.operatorsAll values

/-- The operators of several expressions. -/
def Expr.operatorsAll : List Expr → List String
  | [] => []
  | e :: es => e.operators ++ Expr.operatorsAll es

end

/-- The operators of a statement, clause by clause. -/
def Select.operators (s : Select) : List String :=
  Expr.operatorsAll (s.columns ++ s.joins.filterMap (·.on) ++ s.condition.toList ++ s.groups)

lemma Expr.operatorsAll_eq (es : List Expr) : Expr.operatorsAll es = es.flatMap (·.operators) := by
  induction es with
  | nil => rfl
  | cons e es ih => rw [Expr.operatorsAll, ih, List.flatMap_cons]

end Sql

namespace Plan
open Sql

/-- The operators that a planner may write. -/
def writable : List String := "AND" :: (comparisons ++ listOperators)

lemma operators_of_isColumn {e : Expr} (h : IsColumn e) : e.operators = [] := by
  cases h
  simp [Expr.operators]

lemma operators_of_isParam {e : Expr} (h : IsParam e) : e.operators = [] := by
  cases h
  simp [Expr.operators]

lemma operators_of_isItem {e : Expr} (h : IsItem e) : e.operators = [] := by
  have hvalue : ∀ {e : Expr}, IsValue e → e.operators = [] := by
    intro e h
    cases h with
    | column h => exact operators_of_isColumn h
    | aggregate => simp [Expr.operators, Expr.operatorsAll]
  cases h with
  | star => simp [Expr.operators]
  | bare h => exact hvalue h
  | aliased h => rw [Expr.operators, hvalue h]

lemma operators_of_isCondition {e : Expr} (h : IsCondition e) : e.operators ⊆ writable := by
  induction h with
  | test h =>
    cases h with
    | compare hc hop hp =>
      simp [Expr.operators, operators_of_isColumn hc, operators_of_isParam hp, writable, hop]
    | @oneOf column params negated hc hp =>
      have hparams : Expr.operatorsAll params = [] := by
        rw [Expr.operatorsAll_eq, List.flatMap_eq_nil_iff]
        exact fun p hmem => operators_of_isParam (hp p hmem)
      cases negated <;>
        simp [Expr.operators, operators_of_isColumn hc, hparams, writable, listOperators]
  | both hl hr ihl ihr =>
    rw [Expr.operators, List.append_subset, List.cons_subset]
    exact ⟨ihl, List.mem_cons_self, ihr⟩

/-- A planner writes no other operators. -/
theorem operators_of_planned {s : Select} (h : Planned s) : s.operators ⊆ writable := by
  intro op hop
  rw [Select.operators, Expr.operatorsAll_eq, List.mem_flatMap] at hop
  obtain ⟨e, he, hop⟩ := hop
  simp only [List.mem_append, List.mem_filterMap, Option.mem_toList] at he
  rcases he with ((he | ⟨j, hj, he⟩) | he) | he
  · simp [operators_of_isItem (h.columns.2 e he)] at hop
  · obtain ⟨table, hl, hr⟩ := h.joins j hj
    cases he
    simp [equality, Expr.operators, operators_of_isColumn hl, operators_of_isColumn hr] at hop
    simp [hop, writable, comparisons]
  · exact operators_of_isCondition (h.condition e he) hop
  · simp [operators_of_isColumn (h.groups e he)] at hop

/-! ### Allowed operators -/

/-- The operators allowed for a value: membership, and the equalities for a list or the
comparisons for a single value. -/
def operatorsFor (v : Value) : List String :=
  (if isList v then equalities else comparisons) ++ listOperators

/-- How a stored filter is written: the operator that stands between its column and what it is
compared with, and the condition. -/
inductive Writes (f : ReportFilter) : String → Expr → Prop
  | compare (n : Nat) (hscalar : isList f.value = false)
    (hop : normalOperator f.operator ∈ comparisons) :
    Writes f (normalOperator f.operator)
      (.binary (.column f.column none) (normalOperator f.operator)
        (.param (paramName n) f.value))
  | within (n : Nat) (hop : normalOperator f.operator = "IN" ∨
      isList f.value = true ∧ normalOperator f.operator = "=") :
    Writes f "IN" (.inList (.column f.column none) (parameters n (alternatives f.value)) false)
  | without (n : Nat) (hop : normalOperator f.operator = "NOT IN" ∨
      isList f.value = true ∧ normalOperator f.operator ∈ ["!=", "<>"]) :
    Writes f "NOT IN"
      (.inList (.column f.column none) (parameters n (alternatives f.value)) true)

/-- The operators of membership tests are for the values in a list or for those outside it. -/
lemma membership_cases {op : String} {list : Prop}
    (h : op ∈ listOperators ∨ list ∧ op ∈ equalities) :
    (negations.contains op = false ∧ (op = "IN" ∨ list ∧ op = "=")) ∨
      (negations.contains op = true ∧ (op = "NOT IN" ∨ list ∧ op ∈ ["!=", "<>"])) := by
  rcases h with h | ⟨hlist, h⟩
  · simp only [listOperators, List.mem_cons, List.not_mem_nil, or_false] at h
    rcases h with rfl | rfl <;> simp [negations]
  · simp only [equalities, List.mem_cons, List.not_mem_nil, or_false] at h
    rcases h with rfl | rfl | rfl <;> simp [negations, hlist]

lemma writes_oneOf {f : ReportFilter}
    (h : normalOperator f.operator ∈ listOperators ∨
      isList f.value = true ∧ normalOperator f.operator ∈ equalities) (n : Nat) :
    ∃ op, Writes f op ((Test.oneOf (alternatives f.value)
      (negations.contains (normalOperator f.operator))).condition (.column f.column none) n) := by
  rcases membership_cases h with ⟨hneg, hop⟩ | ⟨hneg, hop⟩
  · rw [hneg]
    exact ⟨"IN", .within n hop⟩
  · rw [hneg]
    exact ⟨"NOT IN", .without n hop⟩

/-- A stored filter has a test exactly if its operator is allowed for its value, and is written
with that operator or as a membership test. -/
theorem ofStored_cases (f : ReportFilter) :
    (normalOperator f.operator ∈ operatorsFor f.value ∧ ∃ t, Test.ofStored f = .ok t ∧
      ∀ n, ∃ op, Writes f op (t.condition (.column f.column none) n)) ∨
    (normalOperator f.operator ∉ operatorsFor f.value ∧ ∃ detail, Test.ofStored f =
      .error (.failure (.invalidReference "filter operator" f.operator detail))) := by
  unfold Test.ofStored operatorsFor
  by_cases hmember : normalOperator f.operator ∈ listOperators
  · refine .inl ⟨List.mem_append_right _ hmember, _, ?_, writes_oneOf (.inl hmember)⟩
    simp [hmember]
  by_cases hlist : isList f.value = true
  · by_cases hequality : normalOperator f.operator ∈ equalities
    · refine .inl ⟨by simp [hlist, hequality], _, ?_, writes_oneOf (.inr ⟨hlist, hequality⟩)⟩
      simp [hlist, hequality]
    · refine .inr ⟨by simp [hlist, hequality, hmember],
        some ("cannot be applied to a list on '" ++ f.column ++ "'"), ?_⟩
      simp [hlist, hequality, hmember]
  · rw [Bool.not_eq_true] at hlist
    by_cases hcomparison : normalOperator f.operator ∈ comparisons
    · refine .inl ⟨by simp [hlist, hcomparison], .compare _ f.value, ?_,
        fun n => ⟨_, .compare n hlist hcomparison⟩⟩
      simp [hlist, hmember, hcomparison]
    · refine .inr ⟨by simp [hlist, hcomparison, hmember], none, ?_⟩
      simp [hlist, hcomparison, hmember]

/-! ### Refused runs -/

/-- A run-time key is a column that the report mentions. -/
def Mentions (r : Report) (key : Value) : Prop := ∃ name ∈ r.knownColumns, key = .str name

/-- Whether a value that is not blank is given for a column. -/
def isGiven (runtime : List (Value × Value)) (column : String) : Bool :=
  runtime.any fun e =>
    !isBlankValue e.2 && match e.1 with | .str s => s == column | _ => false

/-- Whether a stored filter applies in a run: it has a value, and may not be edited unless no
value is given for its column. -/
def appliesIn (runtime : List (Value × Value)) (f : ReportFilter) : Bool :=
  !isBlankValue f.value && !(f.editable && isGiven runtime f.column)

/-- A run that is not planned: a key is not mentioned by the report, or a stored filter that
applies has an operator that is not allowed for its value. -/
def Refused (r : Report) (runtime : List (Value × Value)) : Prop :=
  (∃ e ∈ runtime, ¬ Mentions r e.1) ∨
    ∃ f ∈ r.filters, appliesIn runtime f = true ∧
      normalOperator f.operator ∉ operatorsFor f.value

lemma appliesIn_eq {runtime : List (Value × Value)} {given : List (String × Value)}
    (h : runtime = given.map fun g => (.str g.1, g.2)) (f : ReportFilter) :
    appliesIn runtime f = applies given f := by
  have hgiven : isGiven runtime f.column = (present given).any (·.1 == f.column) := by
    rw [h, isGiven, List.any_map, present, List.any_filter]
    rfl
  rw [appliesIn, applies, hgiven]

lemma knownColumn_error {r : Report} {key : Value} {x : Fault}
    (h : knownColumn r key = .error x) :
    ¬ Mentions r key ∧
      ∃ detail, x = .failure (.invalidReference "report column" key.text detail) := by
  unfold knownColumn at h
  cases key with
  | str s =>
    simp only at h
    split at h
    · cases h
    · rename_i hunknown
      refine ⟨?_, _, (Except.error.inj h).symm⟩
      rintro ⟨name, hname, heq⟩
      cases heq
      simp [hname] at hunknown
  | _ =>
    refine ⟨?_, _, (Except.error.inj h).symm⟩
    rintro ⟨name, _, heq⟩
    cases heq

lemma givenFilters_error {r : Report} {runtime : List (Value × Value)} {x : Fault}
    (h : givenFilters r runtime = .error x) : ∃ e ∈ runtime, knownColumn r e.1 = .error x := by
  induction runtime with
  | nil => cases h
  | cons e rest ih =>
    rcases bind_eq_error h with h | ⟨name, _, h⟩
    · exact ⟨e, List.mem_cons_self, h⟩
    · obtain ⟨e', he, hx⟩ := ih (map_eq_error h)
      exact ⟨e', List.mem_cons_of_mem _ he, hx⟩

lemma applyStored_error {b : Builder} {filters : List ReportFilter} {x : Fault}
    (h : applyStored b filters = .error x) : ∃ f ∈ filters, Test.ofStored f = .error x := by
  induction filters generalizing b with
  | nil => cases h
  | cons f fs ih =>
    rcases bind_eq_error h with h | ⟨t, _, h⟩
    · exact ⟨f, List.mem_cons_self, h⟩
    · obtain ⟨f', hf, hx⟩ := ih h
      exact ⟨f', List.mem_cons_of_mem _ hf, hx⟩

/-- A report that is not planned is refused for one of its keys or operators. -/
theorem report_error {r : Report} {runtime : List (Value × Value)} {x : Fault}
    (h : report r runtime = .error x) :
    Refused r runtime ∧ ∃ kind ref detail, x = .failure (.invalidReference kind ref detail) := by
  rcases bind_eq_error h with h | ⟨given, hgiven, h⟩
  · obtain ⟨e, he, hx⟩ := givenFilters_error h
    obtain ⟨hunknown, detail, rfl⟩ := knownColumn_error hx
    exact ⟨.inl ⟨e, he, hunknown⟩, _, _, _, rfl⟩
  · obtain ⟨f, hf, hx⟩ := applyStored_error (map_eq_error h)
    obtain ⟨hsorted, happlies⟩ := List.mem_filter.mp hf
    rcases ofStored_cases f with ⟨_, t, ht, _⟩ | ⟨hop, detail, herror⟩
    · rw [ht] at hx
      cases hx
    · rw [herror] at hx
      obtain rfl := Except.error.inj hx
      refine ⟨.inr ⟨f, List.mem_mergeSort.mp hsorted, ?_, hop⟩, _, _, _, rfl⟩
      rw [appliesIn_eq (givenFilters_ok hgiven).1]
      exact happlies

/-- A planned report is not refused. -/
theorem not_refused {r : Report} {runtime : List (Value × Value)} {p : QueryPlan}
    (h : report r runtime = .ok p) : ¬ Refused r runtime := by
  obtain ⟨stored, given, hp, _⟩ := report_ok h
  rintro (⟨e, he, hunknown⟩ | ⟨f, hf, happlies, hop⟩)
  · rw [hp.runtime_eq] at he
    obtain ⟨g, hg, rfl⟩ := List.mem_map.mp he
    exact hunknown ⟨g.1, hp.known g hg, rfl⟩
  · rw [appliesIn_eq hp.runtime_eq] at happlies
    have hfilter : f ∈ stored.map (·.1) := by
      rw [hp.stored_eq]
      exact List.mem_filter.mpr ⟨List.mem_mergeSort.mpr hf, happlies⟩
    obtain ⟨s, hs, rfl⟩ := List.mem_map.mp hfilter
    rcases ofStored_cases s.1 with ⟨hallowed, _⟩ | ⟨_, detail, herror⟩
    · exact hop hallowed
    · rw [(hp.tests s hs).1] at herror
      cases herror

/-! ### Planned runs -/

lemma renderAll_parameters (d : Dialect) (n : Nat) (vs : List Value) :
    ∃ ss, Expr.renderAll d (parameters n vs) = .ok ss := by
  refine exists_renderAll fun e he => ?_
  obtain ⟨k, v⟩ := isParam_of_mem_parameters he
  exact ⟨":" ++ paramName k, by rw [Expr.render]⟩

lemma render_inList_parameters (d : Dialect) (column : String) (n : Nat) (vs : List Value)
    (negated : Bool) : ∃ operand,
      (Expr.inList (.column column none) (parameters n vs) negated).render d =
        .ok ("(" ++ d.quote column ++ " " ++ (if negated then "NOT IN" else "IN") ++ " " ++
          operand ++ ")") := by
  obtain ⟨ss, hss⟩ := renderAll_parameters d n vs
  have htext : ∀ e : String, Expr.inListText e ss negated =
      "(" ++ e ++ " " ++ (if negated then "NOT IN" else "IN") ++ " " ++
        ("(" ++ ", ".intercalate ss ++ ")") ++ ")" := by
    intro e
    rw [← String.toList_inj]
    cases negated <;> simp [Expr.inListText]
  refine ⟨"(" ++ ", ".intercalate ss ++ ")", ?_⟩
  rw [Expr.render, hss, ← htext]
  rfl

/-- In every dialect, the operator of a stored filter stands between its column and the
parameters it is compared with. -/
lemma Writes.render {f : ReportFilter} {op : String} {e : Expr} (h : Writes f op e)
    (d : Dialect) : ∃ operand,
      e.render d = .ok ("(" ++ d.quote f.column ++ " " ++ op ++ " " ++ operand ++ ")") := by
  cases h with
  | compare n => exact ⟨":" ++ paramName n, by simp only [Expr.render]; rfl⟩
  | within n => exact render_inList_parameters d f.column n (alternatives f.value) false
  | without n => exact render_inList_parameters d f.column n (alternatives f.value) true

/-- The operator that a stored filter is written with is an allowed one. -/
lemma Writes.allowed {f : ReportFilter} {op : String} {e : Expr} (h : Writes f op e) :
    op ∈ comparisons ++ listOperators := by
  cases h with
  | compare _ _ hop => exact List.mem_append_left _ hop
  | within => decide
  | without => decide

/-- The condition of a value given for a run. -/
inductive WritesGiven (r : Report) : Expr → Prop
  | compare {column : String} (n : Nat) (v : Value) (hknown : column ∈ r.knownColumns) :
    WritesGiven r (.binary (.column column none) "=" (.param (paramName n) v))
  | within {column : String} (n : Nat) (vs : List Value) (hknown : column ∈ r.knownColumns) :
    WritesGiven r (.inList (.column column none) (parameters n vs) false)

lemma writesGiven_ofGiven {r : Report} {column : String} (hknown : column ∈ r.knownColumns)
    (v : Value) (n : Nat) :
    WritesGiven r ((Test.ofGiven v).condition (.column column none) n) := by
  cases v with
  | list vs | tuple vs => exact .within n vs hknown
  | _ => exact .compare n _ hknown

/-- What a planned report writes: the conditions `es` of the stored filters that apply, in their
order, then the conditions `gs` of given values, and nothing else of either. -/
structure Written (r : Report) (runtime : List (Value × Value)) (s : Select) (es gs : List Expr) :
    Prop where
  statement : s = { columns := (projection r).columns
                    source := some ⟨r.table, none⟩
                    condition := conjunction (es ++ gs) }
  stored : List.Forall₂ (fun f e => ∃ op ∈ comparisons ++ listOperators, Writes f op e ∧
      ∀ d : Dialect, ∃ operand,
        e.render d = .ok ("(" ++ d.quote f.column ++ " " ++ op ++ " " ++ operand ++ ")"))
    ((sortedFilters r).filter (appliesIn runtime)) es
  given : ∀ g ∈ gs, WritesGiven r g
  operators : s.operators ⊆ writable

lemma forall₂_writes {stored : List (ReportFilter × Test)}
    (h : ∀ s ∈ stored, Test.ofStored s.1 = .ok s.2) (n : Nat) :
    List.Forall₂ (fun f e => ∃ op, Writes f op e) (stored.map (·.1))
      (conditions n (stored.map storedConstraint)) := by
  induction stored generalizing n with
  | nil => exact .nil
  | cons s rest ih =>
    simp only [List.mem_cons, forall_eq_or_imp] at h
    refine .cons ?_ (ih h.2 _)
    rcases ofStored_cases s.1 with ⟨_, t, ht, hwrites⟩ | ⟨_, detail, herror⟩
    · rw [h.1] at ht
      obtain rfl := Except.ok.inj ht
      exact hwrites n
    · rw [h.1] at herror
      cases herror

theorem written_of_report {r : Report} {runtime : List (Value × Value)} {p : QueryPlan}
    (h : report r runtime = .ok p) : ∃ es gs, Written r runtime p.statement es gs := by
  obtain ⟨stored, given, hp, hstatement⟩ := report_ok h
  have hstored := forall₂_writes (fun s hs => (hp.tests s hs).1) 0
  have happlies : (sortedFilters r).filter (appliesIn runtime) =
      (sortedFilters r).filter (applies given) :=
    List.filter_congr fun f _ => appliesIn_eq hp.runtime_eq f
  refine ⟨conditions 0 (stored.map storedConstraint),
    conditions (0 + (boundValues (stored.map storedConstraint)).length)
      ((present given).map givenConstraint), ?_, ?_, ?_, operators_of_planned (report_planned h)⟩
  · rw [hstatement, ← conditions_append]
    rfl
  · rw [happlies, ← hp.stored_eq]
    refine hstored.imp ?_
    rintro f e ⟨op, hop⟩
    exact ⟨op, hop.allowed, hop, hop.render⟩
  · intro g hg
    obtain ⟨c, hc, n, rfl⟩ := mem_conditions hg
    obtain ⟨v, hv, rfl⟩ := List.mem_map.mp hc
    exact writesGiven_ofGiven (hp.known v (List.mem_of_mem_filter hv)) v.2 n

/-- A report is refused exactly for a key it does not mention or an operator that is not allowed
for its value. Otherwise it is planned, and only allowed operators are written. -/
theorem operators_allowed (r : Report) (runtime : List (Value × Value)) :
    ((∃ kind ref detail,
        report r runtime = .error (.failure (.invalidReference kind ref detail))) ↔
      Refused r runtime) ∧
    (¬ Refused r runtime → ∃ p es gs, report r runtime = .ok p ∧
      Written r runtime p.statement es gs) := by
  cases h : report r runtime with
  | error x =>
    obtain ⟨hrefused, kind, ref, detail, rfl⟩ := report_error h
    exact ⟨⟨fun _ => hrefused, fun _ => ⟨kind, ref, detail, rfl⟩⟩,
      fun hnot => absurd hrefused hnot⟩
  | ok p =>
    have hnot := not_refused h
    obtain ⟨es, gs, hwritten⟩ := written_of_report h
    refine ⟨⟨?_, fun hrefused => absurd hrefused hnot⟩, fun _ => ⟨p, es, gs, rfl, hwritten⟩⟩
    rintro ⟨kind, ref, detail, herror⟩
    cases herror

/-- A report with a filter whose operator is more than an operator. -/
def looseReport : Report :=
  { ordersReport with filters := [⟨"status", "= '' or", .str "draft", true, 0⟩] }

/-- An operator with other spaces is allowed, and one with other words is not unless a value is
given in the place of its filter. -/
theorem operators_allowed_orders :
    ¬ Refused ordersReport [] ∧
      (∃ p es gs, report ordersReport [] = .ok p ∧ Written ordersReport [] p.statement es gs) ∧
      (∃ kind ref detail,
        report looseReport [] = .error (.failure (.invalidReference kind ref detail))) ∧
      ¬ Refused looseReport [(.str "status", .str "open")] := by
  have horders : ∃ p, report ordersReport [] = .ok p := by
    unfold report applicable
    rw [← sortedFilters, sortedFilters_ordersReport, visibleColumns_ordersReport]
    exact ⟨_, rfl⟩
  obtain ⟨p, hp⟩ := horders
  have hloose : Refused looseReport [] :=
    .inr ⟨_, List.mem_cons_self, by decide, by decide⟩
  have hgiven : ¬ Refused looseReport [(.str "status", .str "open")] := by
    rintro (⟨e, he, hunknown⟩ | ⟨f, hf, happlies, _⟩)
    · obtain rfl := List.mem_singleton.mp he
      exact hunknown ⟨"status", by decide, rfl⟩
    · obtain rfl := List.mem_singleton.mp hf
      revert happlies
      decide
  exact ⟨not_refused hp, (operators_allowed ordersReport []).2 (not_refused hp),
    (operators_allowed looseReport []).1.mpr hloose, hgiven⟩

end Plan
end MetricLayer
