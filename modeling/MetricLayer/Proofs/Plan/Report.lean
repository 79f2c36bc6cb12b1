import MetricLayer.Proofs.Fault
import MetricLayer.Proofs.Plan.Condition

/-!
# The condition of a report

A report is restricted by its stored filters, in their order, and then by the values given for
a run. A stored filter is left out only if it has no value, or if it may be edited and a value
is given for its column. So a filter that may not be edited restricts every run alike.
-/
namespace MetricLayer.Plan
open Sql

/-! ### Stable orders -/

/-- The items of a list by ascending key, those of the same key in the order of the list. -/
structure StablyOrdered {α : Type} (key : α → Int) (xs sorted : List α) : Prop where
  perm : sorted.Perm xs
  ordered : sorted.Pairwise fun a b => key a ≤ key b
  stable : ∀ k, sorted.filter (key · == k) = xs.filter (key · == k)

theorem stablyOrdered_mergeSort {α : Type} (key : α → Int) (xs : List α) :
    StablyOrdered key xs (xs.mergeSort fun a b => key a ≤ key b) := by
  have htrans : ∀ a b c : α, decide (key a ≤ key b) = true → decide (key b ≤ key c) = true →
      decide (key a ≤ key c) = true := by
    intro a b c hab hbc
    simp only [decide_eq_true_eq] at hab hbc ⊢
    exact Int.le_trans hab hbc
  have htotal : ∀ a b : α, (decide (key a ≤ key b) || decide (key b ≤ key a)) = true := by
    intro a b
    simpa using Int.le_total (key a) (key b)
  refine ⟨List.mergeSort_perm _ _, ?_, ?_⟩
  · simpa using List.pairwise_mergeSort htrans htotal xs
  · intro k
    have hpairwise : (xs.filter (key · == k)).Pairwise fun a b => decide (key a ≤ key b) := by
      refine List.pairwise_of_forall_mem_list ?_
      intro a ha b hb
      simp only [List.mem_filter, beq_iff_eq] at ha hb
      simp [ha.2, hb.2]
    -- The items of one key stay in order, and there are no more of them after sorting.
    have hsublist := (List.sublist_mergeSort htrans htotal hpairwise
      List.filter_sublist).filter (key · == k)
    simp only [List.filter_filter, Bool.and_self] at hsublist
    exact (hsublist.eq_of_length ((List.mergeSort_perm _ _).filter _).length_eq.symm).symm

/-! ### The parts of a planned report -/

lemma knownColumn_ok {r : Report} {key : Value} {name : String}
    (h : knownColumn r key = .ok name) : key = .str name ∧ name ∈ r.knownColumns := by
  unfold knownColumn at h
  split at h
  · split at h
    · rename_i hknown
      obtain rfl := Except.ok.inj h
      exact ⟨rfl, by simpa using hknown⟩
    · cases h
  · cases h

lemma givenFilters_ok {r : Report} {runtime : List (Value × Value)}
    {given : List (String × Value)} (h : givenFilters r runtime = .ok given) :
    (runtime = given.map fun g => (.str g.1, g.2)) ∧ ∀ g ∈ given, g.1 ∈ r.knownColumns := by
  induction runtime generalizing given with
  | nil =>
    obtain rfl := Except.ok.inj h
    simp
  | cons e rest ih =>
    obtain ⟨k, v⟩ := e
    obtain ⟨name, hname, h⟩ := bind_eq_ok h
    obtain ⟨tail, htail, h⟩ := bind_eq_ok h
    obtain rfl := Except.ok.inj h
    obtain ⟨rfl, hknown⟩ := knownColumn_ok hname
    obtain ⟨rfl, hrest⟩ := ih htail
    refine ⟨rfl, ?_⟩
    intro g hg
    rcases List.mem_cons.mp hg with rfl | hg
    · exact hknown
    · exact hrest g hg

/-- What a stored filter tests: an allowed comparison with its value, or membership. -/
lemma ofStored_ok {f : ReportFilter} {t : Test} (h : Test.ofStored f = .ok t) :
    (∃ op ∈ comparisons, t = .compare op f.value ∧ isList f.value = false) ∨
      ∃ negated, t = .oneOf (alternatives f.value) negated := by
  unfold Test.ofStored at h
  simp only at h
  split at h
  · split at h
    · exact .inr ⟨_, (Except.ok.inj h).symm⟩
    · cases h
  · rename_i hlist
    split at h
    · rename_i hop
      refine .inl ⟨_, by simpa using hop, (Except.ok.inj h).symm, ?_⟩
      simp only [Bool.or_eq_true, not_or, Bool.not_eq_true] at hlist
      exact hlist.1
    · cases h

/-- A stored filter is tested against its own values. -/
lemma values_ofStored {f : ReportFilter} {t : Test} (h : Test.ofStored f = .ok t) :
    t.values = alternatives f.value := by
  rcases ofStored_ok h with ⟨op, _, rfl, hlist⟩ | ⟨negated, rfl⟩
  · cases hv : f.value <;> simp_all [Test.values, alternatives, isList]
  · rfl

/-- The constraint of a stored filter and its test. -/
def storedConstraint (s : ReportFilter × Test) : Constraint :=
  ⟨.column s.1.column none, s.2⟩

/-- The constraint of a value given for a column. -/
def givenConstraint (g : String × Value) : Constraint :=
  ⟨.column g.1 none, Test.ofGiven g.2⟩

theorem applyStored_constrained {b b' : Builder} {cs : List Constraint}
    {filters : List ReportFilter} (h : applyStored (constrained b cs) filters = .ok b') :
    ∃ stored : List (ReportFilter × Test), stored.map (·.1) = filters ∧
      (∀ s ∈ stored, Test.ofStored s.1 = .ok s.2) ∧
      b' = constrained b (cs ++ stored.map storedConstraint) := by
  induction filters generalizing cs with
  | nil =>
    obtain rfl := Except.ok.inj h
    exact ⟨[], rfl, by simp, by simp⟩
  | cons f fs ih =>
    obtain ⟨t, ht, h⟩ := bind_eq_ok h
    rw [applyTo_constrained] at h
    obtain ⟨stored, rfl, htests, rfl⟩ := ih h
    refine ⟨(f, t) :: stored, rfl, ?_, by simp [storedConstraint]⟩
    intro s hs
    rcases List.mem_cons.mp hs with rfl | hs
    · exact ht
    · exact htests s hs

theorem applyGiven_constrained (b : Builder) (cs : List Constraint)
    (given : List (String × Value)) :
    applyGiven (constrained b cs) given =
      constrained b (cs ++ given.map givenConstraint) := by
  induction given generalizing cs with
  | nil => simp [applyGiven]
  | cons g rest ih =>
    have hstep : applyGiven (constrained b cs) (g :: rest) =
        applyGiven ((Test.ofGiven g.2).applyTo (constrained b cs) g.1) rest := rfl
    rw [hstep, applyTo_constrained, ih]
    simp [givenConstraint]

/-- The given values that are not blank. -/
def present (given : List (String × Value)) : List (String × Value) :=
  given.filter fun g => !isBlankValue g.2

/-- Whether a stored filter applies beside given values: it has a value, and may not be edited
unless no value is given for its column. -/
def applies (given : List (String × Value)) (f : ReportFilter) : Bool :=
  !isBlankValue f.value && !(f.editable && (present given).any (·.1 == f.column))

/-- The constraints of stored filters with their tests, then those of given values. -/
def restrictions (stored : List (ReportFilter × Test)) (given : List (String × Value)) :
    List Constraint :=
  stored.map storedConstraint ++ (present given).map givenConstraint

/-- How a planned report is restricted: its sorted filters that apply are tested against their
values, the given values follow, and the parameters are numbered in that order. -/
structure Restricts (r : Report) (sorted : List ReportFilter) (runtime : List (Value × Value))
    (p : QueryPlan) (stored : List (ReportFilter × Test)) (given : List (String × Value)) :
    Prop where
  runtime_eq : runtime = given.map fun g => (.str g.1, g.2)
  known : ∀ g ∈ given, g.1 ∈ r.knownColumns
  stored_eq : stored.map (·.1) = sorted.filter (applies given)
  tests : ∀ s ∈ stored, Test.ofStored s.1 = .ok s.2 ∧ s.2.values = alternatives s.1.value
  condition : p.statement.condition = conjunction (conditions 0 (restrictions stored given))
  params : p.params =
    (boundValues (restrictions stored given)).mapIdx fun i v => (paramName i, v)

/-- The filters of a report in the order they apply. -/
def sortedFilters (r : Report) : List ReportFilter :=
  r.filters.mergeSort fun f g => f.order ≤ g.order

/-- The statement of a report before its filters. -/
def projection (r : Report) : Builder where
  columns := if r.visibleColumns.isEmpty then [.star none] else r.visibleColumns.map reportItem
  source := some ⟨r.table, none⟩

/-- A planned report in closed form. -/
theorem report_ok {r : Report} {runtime : List (Value × Value)} {p : QueryPlan}
    (h : report r runtime = .ok p) :
    ∃ stored given, Restricts r (sortedFilters r) runtime p stored given ∧
      p.statement = (constrained (projection r) (restrictions stored given)).statement := by
  obtain ⟨given, hgiven, h⟩ := bind_eq_ok h
  obtain ⟨b, hb, h⟩ := bind_eq_ok h
  change applyStored (projection r) (applicable r (present given)) = .ok b at hb
  rw [← constrained_nil (b := projection r) rfl rfl] at hb
  obtain ⟨stored, hstored, htests, rfl⟩ := applyStored_constrained hb
  obtain ⟨hruntime, hknown⟩ := givenFilters_ok hgiven
  obtain rfl := Except.ok.inj h
  have hgivens : applyGiven (constrained (projection r) ([] ++ stored.map storedConstraint))
      (present given) = constrained (projection r) (restrictions stored given) := by
    rw [applyGiven_constrained, List.nil_append, restrictions]
  refine ⟨stored, given, ⟨hruntime, hknown, hstored, ?_, ?_, ?_⟩, ?_⟩
  · intro s hs
    exact ⟨htests s hs, values_ofStored (htests s hs)⟩
  · exact congrArg (·.statement.condition) hgivens
  · exact congrArg (·.params) hgivens
  · exact congrArg (·.statement) hgivens

/-! ### Filters that may not be edited -/

/-- The stored filters that no value given for a run can take the place of. -/
def locked (stored : List (ReportFilter × Test)) : List (ReportFilter × Test) :=
  stored.filter fun s => !s.1.editable

lemma locked_filters {r : Report} {sorted : List ReportFilter}
    {runtime : List (Value × Value)} {p : QueryPlan} {stored : List (ReportFilter × Test)}
    {given : List (String × Value)} (h : Restricts r sorted runtime p stored given) :
    (locked stored).map (·.1) =
      sorted.filter fun f => !isBlankValue f.value && !f.editable := by
  have hmap : (locked stored).map (·.1) = (stored.map (·.1)).filter fun f => !f.editable := by
    rw [List.filter_map]
    rfl
  rw [hmap, h.stored_eq, List.filter_filter]
  refine List.filter_congr ?_
  intro f _
  cases hf : f.editable <;> simp [applies, hf]

/-- The tests of stored filters are those of their operators and values alone. -/
lemma eq_of_tests {xs ys : List (ReportFilter × Test)} (hmap : xs.map (·.1) = ys.map (·.1))
    (hx : ∀ s ∈ xs, Test.ofStored s.1 = .ok s.2)
    (hy : ∀ s ∈ ys, Test.ofStored s.1 = .ok s.2) : xs = ys := by
  induction xs generalizing ys with
  | nil => exact (List.map_eq_nil_iff.mp hmap.symm).symm
  | cons a xs ih =>
    cases ys with
    | nil => cases hmap
    | cons b ys =>
      simp only [List.map_cons, List.cons.injEq] at hmap
      obtain ⟨hfilter, hrest⟩ := hmap
      simp only [List.mem_cons, forall_eq_or_imp] at hx hy
      have htest : a.2 = b.2 := Except.ok.inj (by rw [← hx.1, ← hy.1, hfilter])
      rw [Prod.ext hfilter htest, ih hrest hx.2 hy.2]

lemma locked_eq {r : Report} {sorted : List ReportFilter} {runtime runtime' : List (Value × Value)}
    {p p' : QueryPlan} {stored stored' : List (ReportFilter × Test)}
    {given given' : List (String × Value)} (h : Restricts r sorted runtime p stored given)
    (h' : Restricts r sorted runtime' p' stored' given') : locked stored' = locked stored := by
  refine eq_of_tests ?_ ?_ ?_
  · rw [locked_filters h, locked_filters h']
  · intro s hs
    exact (h'.tests s (List.mem_of_mem_filter hs)).1
  · intro s hs
    exact (h.tests s (List.mem_of_mem_filter hs)).1

/-- The columns of the condition are unqualified columns that the report mentions. -/
lemma references_restrictions {r : Report} {runtime : List (Value × Value)} {p : QueryPlan}
    {stored : List (ReportFilter × Test)} {given : List (String × Value)}
    (h : Restricts r (sortedFilters r) runtime p stored given) {e : Expr}
    (he : p.statement.condition = some e) {x : String × Option String} (hx : x ∈ e.references) :
    ∃ column ∈ r.knownColumns, x = (column, none) := by
  rw [h.condition] at he
  rw [references_conjunction he, List.mem_flatMap] at hx
  obtain ⟨d, hd, hx⟩ := hx
  obtain ⟨c, hc, k, rfl⟩ := mem_conditions hd
  rw [references_condition] at hx
  rcases List.mem_append.mp hc with hc | hc
  · obtain ⟨s, hs, rfl⟩ := List.mem_map.mp hc
    refine ⟨s.1.column, ?_, by simpa [storedConstraint, Expr.references] using hx⟩
    have hfilter : s.1 ∈ (sortedFilters r).filter (applies given) := by
      rw [← h.stored_eq]
      exact List.mem_map_of_mem hs
    have hsorted := List.mem_mergeSort.mp (List.mem_filter.mp hfilter).1
    exact List.mem_append_right _ (List.mem_map_of_mem hsorted)
  · obtain ⟨g, hg, rfl⟩ := List.mem_map.mp hc
    exact ⟨g.1, h.known g (List.mem_of_mem_filter hg), by
      simpa [givenConstraint, Expr.references] using hx⟩

/-- A run of a report is restricted by exactly its stored filters that apply, in stable order,
and the values given for the run, in theirs. The stored filters that may not be edited are
tested alike in every run, and only columns that the report mentions are tested. -/
theorem report_restricted (r : Report) :
    ∃ sorted, StablyOrdered (·.order) r.filters sorted ∧
      ∀ runtime p, report r runtime = .ok p →
        ∃ stored given, Restricts r sorted runtime p stored given ∧
          (p.statement.condition = none ↔ stored = [] ∧ present given = []) ∧
          (∀ e, p.statement.condition = some e → ∀ x ∈ e.references,
            ∃ column ∈ r.knownColumns, x = (column, none)) ∧
          ∀ runtime' p', report r runtime' = .ok p' →
            ∃ stored' given', Restricts r sorted runtime' p' stored' given' ∧
              locked stored' = locked stored := by
  refine ⟨sortedFilters r, stablyOrdered_mergeSort _ _, ?_⟩
  intro runtime p h
  obtain ⟨stored, given, hp, _⟩ := report_ok h
  refine ⟨stored, given, hp, ?_, ?_, ?_⟩
  · rw [hp.condition, conjunction_conditions_eq_none]
    simp [restrictions]
  · intro e he x hx
    exact references_restrictions hp he hx
  · intro runtime' p' h'
    obtain ⟨stored', given', hp', _⟩ := report_ok h'
    exact ⟨stored', given', hp', locked_eq hp hp'⟩

/-- A report on all columns of one tenant, and by default without drafts. -/
def ordersReport : Report where
  id := 1
  connectionId := 1
  name := "Orders"
  table := "orders"
  filters :=
    [⟨"tenant", "=", .int 7, false, 1⟩, ⟨"status", "not  in", .list [.str "draft"], true, 0⟩]

lemma sortedFilters_ordersReport : sortedFilters ordersReport =
    [⟨"status", "not  in", .list [.str "draft"], true, 0⟩, ⟨"tenant", "=", .int 7, false, 1⟩] := by
  simp [sortedFilters, ordersReport, List.mergeSort]

lemma visibleColumns_ordersReport : ordersReport.visibleColumns = [] := by
  simp [Report.visibleColumns, ordersReport]

/-- A given state takes the place of the stored one, and nothing takes that of the tenant. -/
theorem report_restricted_orders :
    ∃ sorted p q stored given stored' given',
      report ordersReport [] = .ok p ∧
      p.params = [("p0", .str "draft"), ("p1", .int 7)] ∧
      report ordersReport [(.str "status", .str "open"), (.str "tenant", .str "")] = .ok q ∧
      q.params = [("p0", .int 7), ("p1", .str "open")] ∧
      Restricts ordersReport sorted [] p stored given ∧
      Restricts ordersReport sorted [(.str "status", .str "open"), (.str "tenant", .str "")] q
        stored' given' ∧
      locked stored' = locked stored := by
  obtain ⟨sorted, _, hruns⟩ := report_restricted ordersReport
  have hp : ∃ p, report ordersReport [] = .ok p ∧
      p.params = [("p0", .str "draft"), ("p1", .int 7)] := by
    unfold report applicable
    rw [← sortedFilters, sortedFilters_ordersReport, visibleColumns_ordersReport]
    exact ⟨_, rfl, rfl⟩
  have hq : ∃ q, report ordersReport [(.str "status", .str "open"), (.str "tenant", .str "")] =
      .ok q ∧ q.params = [("p0", .int 7), ("p1", .str "open")] := by
    unfold report applicable
    rw [← sortedFilters, sortedFilters_ordersReport, visibleColumns_ordersReport]
    exact ⟨_, rfl, rfl⟩
  obtain ⟨p, hp, hpparams⟩ := hp
  obtain ⟨q, hq, hqparams⟩ := hq
  obtain ⟨stored, given, hrestricts, _, _, hlocked⟩ := hruns _ p hp
  obtain ⟨stored', given', hrestricts', hsame⟩ := hlocked _ q hq
  exact ⟨sorted, p, q, stored, given, stored', given', hp, hpparams, hq, hqparams, hrestricts,
    hrestricts', hsame⟩

end MetricLayer.Plan
