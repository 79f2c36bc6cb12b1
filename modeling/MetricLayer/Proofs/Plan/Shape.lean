import MetricLayer.Proofs.Plan.Assembly
import MetricLayer.Proofs.Plan.Report
import MetricLayer.Proofs.Sql.Spelling

/-!
# What a plan sees of the values of filters

A planner asks of a value whether it is blank, whether it is a list, and how long the list is.
Filters whose values agree in this are planned alike: the statements differ only in the values
that their parameters are bound to.
-/
namespace MetricLayer.Plan
open Sql

/-! ### Values of one shape -/

/-- Two values are lists or tuples of the same length, or none of them is a list or a tuple. -/
inductive SameShape : Value → Value → Prop
  | scalar {v w : Value} (hv : isList v = false) (hw : isList w = false) : SameShape v w
  | list {vs ws : List Value} (h : vs.length = ws.length) : SameShape (.list vs) (.list ws)
  | tuple {vs ws : List Value} (h : vs.length = ws.length) : SameShape (.tuple vs) (.tuple ws)

/-- Two values are both blank, or none of them is and they have the same shape. -/
inductive SameUse : Value → Value → Prop
  | blank {v w : Value} (hv : isBlankValue v = true) (hw : isBlankValue w = true) : SameUse v w
  | scalar {v w : Value} (hv : isList v = false) (hw : isList w = false)
    (hv' : isBlankValue v = false) (hw' : isBlankValue w = false) : SameUse v w
  | list {vs ws : List Value} (h : vs.length = ws.length) : SameUse (.list vs) (.list ws)
  | tuple {vs ws : List Value} (h : vs.length = ws.length) : SameUse (.tuple vs) (.tuple ws)

namespace SameShape

variable {v w : Value}

lemma isList (h : SameShape v w) : Plan.isList w = Plan.isList v := by
  cases h with
  | scalar hv hw => rw [hv, hw]
  | list | tuple => rfl

lemma isEmptyList (h : SameShape v w) : Plan.isEmptyList w = Plan.isEmptyList v := by
  cases h with
  | scalar hv hw => cases v <;> cases w <;> simp_all [Plan.isList, Plan.isEmptyList]
  | @list vs ws h | @tuple vs ws h =>
    cases vs <;> cases ws <;> simp_all [Plan.isEmptyList]

lemma length_alternatives (h : SameShape v w) :
    (alternatives w).length = (alternatives v).length := by
  cases h with
  | scalar hv hw => cases v <;> cases w <;> simp_all [Plan.isList, alternatives]
  | list h | tuple h => exact h.symm

end SameShape

namespace SameUse

variable {v w : Value}

lemma isBlankValue (h : SameUse v w) : Plan.isBlankValue w = Plan.isBlankValue v := by
  cases h with
  | blank hv hw => rw [hv, hw]
  | scalar _ _ hv hw => rw [hv, hw]
  | @list vs ws h | @tuple vs ws h =>
    cases vs <;> cases ws <;> simp_all [Plan.isBlankValue]

lemma sameShape (h : SameUse v w) (hv : Plan.isBlankValue v = false) : SameShape v w := by
  cases h with
  | blank hv' _ => simp [hv] at hv'
  | scalar hv hw _ _ => exact .scalar hv hw
  | list h => exact .list h
  | tuple h => exact .tuple h

end SameUse

/-! ### Constraints that differ in values -/

/-- Two tests differ at most in the values they compare with. -/
inductive Test.Alike : Test → Test → Prop
  | compare (op : String) (v w : Value) : Alike (.compare op v) (.compare op w)
  | oneOf {vs ws : List Value} (h : vs.length = ws.length) (negated : Bool) :
    Alike (.oneOf vs negated) (.oneOf ws negated)

/-- Two constraints test the same expression, and their tests differ at most in values. -/
structure Constraint.Alike (c c' : Constraint) : Prop where
  expr : c'.expr = c.expr
  test : Test.Alike c.test c'.test

lemma Test.Alike.length_values {t t' : Test} (h : Test.Alike t t') :
    t'.values.length = t.values.length := by
  cases h with
  | compare => rfl
  | oneOf h => exact h.symm

lemma unboundAll_parameters {vs ws : List Value} (h : vs.length = ws.length) (n : Nat) :
    Expr.unboundAll (parameters n ws) = Expr.unboundAll (parameters n vs) := by
  induction vs generalizing n ws with
  | nil => rw [List.length_eq_zero_iff.mp h.symm]
  | cons v vs ih =>
    cases ws with
    | nil => cases h
    | cons w ws =>
      simp only [parameters, Expr.unboundAll, Expr.unbound, ih (Nat.succ.inj h)]

lemma Test.Alike.unbound_condition {t t' : Test} (h : Test.Alike t t') (e : Expr) (n : Nat) :
    (t'.condition e n).unbound = (t.condition e n).unbound := by
  cases h with
  | compare => rfl
  | oneOf h negated =>
    simp only [Test.condition, Expr.unbound, unboundAll_parameters h]

/-- Conditions of constraints that differ in values are the same but for those. -/
lemma unbound_conditions {cs cs' : List Constraint} (h : List.Forall₂ Constraint.Alike cs cs')
    (n : Nat) : (conditions n cs').map Expr.unbound = (conditions n cs).map Expr.unbound := by
  induction h generalizing n with
  | nil => rfl
  | cons hc _ ih =>
    simp only [conditions, List.map_cons, hc.expr, hc.test.unbound_condition,
      hc.test.length_values, ih]

lemma unbound_conjunction (es : List Expr) :
    (conjunction es).map Expr.unbound = conjunction (es.map Expr.unbound) := by
  cases es with
  | nil => rfl
  | cons e es =>
    refine congrArg some ?_
    induction es generalizing e with
    | nil => rfl
    | cons f es ih => exact ih (.binary e "AND" f)

/-- A statement under constraints that differ in values is the same but for those. -/
lemma unbound_constrained {cs cs' : List Constraint} (h : List.Forall₂ Constraint.Alike cs cs') :
    (conjunction (conditions 0 cs')).map Expr.unbound =
      (conjunction (conditions 0 cs)).map Expr.unbound := by
  rw [unbound_conjunction, unbound_conjunction, unbound_conditions h]

/-! ### Plans that differ in values -/

/-- Values under the names of the parameters they are bound to. -/
def numbered (vs : List Value) : List (String × Value) :=
  vs.mapIdx fun i v => (paramName i, v)

/-- Two plans differ at most in the values their parameters are bound to. -/
structure SamePlan (p p' : QueryPlan) : Prop where
  statement : p'.statement.unbound = p.statement.unbound
  rest : p' = { p with statement := p'.statement, params := p'.params }

/-! ### Filters of aggregate queries -/

/-- Two filters are on the same dimension, with values of the same shape. -/
structure FiltersAlike (f f' : Filter) : Prop where
  dimension : f'.dimensionId = f.dimensionId
  value : SameShape f.value f'.value

/-- Whether a filter applies: its dimension is kept, and it names a value. -/
def Frame.applies (fr : Frame) (f : Filter) : Bool :=
  (fr.dimension? f.dimensionId).isSome && !isEmptyList f.value

/-- The values of the filters that apply, in order. -/
def usedValues (fr : Frame) (filters : List Filter) : List Value :=
  (filters.filter fr.applies).flatMap fun f => alternatives f.value

lemma values_ofGiven (v : Value) : (Test.ofGiven v).values = alternatives v := by
  cases v <;> rfl

lemma boundValues_applied (fr : Frame) (filters : List Filter) :
    boundValues (applied fr filters) = usedValues fr filters := by
  induction filters with
  | nil => rfl
  | cons f filters ih =>
    simp only [applied, usedValues, boundValues] at ih ⊢
    rw [List.filterMap_cons, List.filter_cons]
    unfold filterTarget Frame.applies
    cases hr : fr.dimension? f.dimensionId with
    | none => exact ih
    | some r =>
      cases hempty : isEmptyList f.value with
      | true => exact ih
      | false => exact congrArg₂ (· ++ ·) (values_ofGiven f.value) ih

lemma alike_ofGiven {v w : Value} (h : SameShape v w) :
    Test.Alike (Test.ofGiven v) (Test.ofGiven w) := by
  cases h with
  | scalar hv hw => cases v <;> cases w <;> first | exact .compare _ _ _ | simp_all [isList]
  | list h | tuple h => exact .oneOf h false

lemma FiltersAlike.target {f f' : Filter} (h : FiltersAlike f f') (fr : Frame) :
    filterTarget fr f' = filterTarget fr f := by
  unfold filterTarget
  rw [h.dimension, h.value.isEmptyList]

/-- Filters with values of the same shapes apply alike and leave the same warnings. -/
lemma applied_alike {filters filters' : List Filter}
    (h : List.Forall₂ FiltersAlike filters filters') (fr : Frame) :
    List.Forall₂ Constraint.Alike (applied fr filters) (applied fr filters') ∧
      ignored fr filters' = ignored fr filters := by
  induction h with
  | nil => exact ⟨.nil, rfl⟩
  | @cons f f' fs fs' hf _ ih =>
    have htarget := hf.target fr
    cases hr : filterTarget fr f with
    | ok r =>
      rw [hr] at htarget
      simp only [applied, ignored, List.filterMap_cons, hr, htarget]
      exact ⟨.cons ⟨rfl, alike_ofGiven hf.value⟩ ih.1, ih.2⟩
    | error w =>
      rw [hr] at htarget
      simp only [applied, ignored, List.filterMap_cons, hr, htarget]
      exact ⟨ih.1, congrArg (w :: ·) ih.2⟩

/-- Two plans differ at most in the values of the filters that apply. -/
structure SameFiltered (fr : Frame) (filters filters' : List Filter) (p p' : QueryPlan) :
    Prop where
  plan : SamePlan p p'
  params : p.params = numbered (usedValues fr filters)
  params' : p'.params = numbered (usedValues fr filters')

/-- Queries whose filters have values of the same shapes are planned alike. -/
theorem assemble_alike {filters filters' : List Filter}
    (h : List.Forall₂ FiltersAlike filters filters') (fr : Frame) (measures : List Measure)
    (selected : List Int) (warnings : List String) :
    Together (SameFiltered fr filters filters')
      (assemble fr measures selected filters warnings)
      (assemble fr measures selected filters' warnings) := by
  obtain ⟨happlied, hignored⟩ := applied_alike h fr
  rw [assemble_eq, assemble_eq]
  split
  · exact .error _
  · refine .ok ⟨⟨?_, ?_⟩, ?_, ?_⟩
    · simp only [assembled, Select.unbound, unbound_constrained happlied]
    · simp only [assembled, hignored]
    · rw [← boundValues_applied]
      rfl
    · rw [← boundValues_applied]
      rfl

/-! ### Filters of reports -/

/-- Two stored filters differ at most in their values, which are of the same use. -/
structure StoredAlike (f f' : ReportFilter) : Prop where
  rest : f' = { f with value := f'.value }
  value : SameUse f.value f'.value

/-- Two reports differ at most in the values of their stored filters. -/
structure ReportsAlike (r r' : Report) : Prop where
  rest : r' = { r with filters := r'.filters }
  filters : List.Forall₂ StoredAlike r.filters r'.filters

/-- Two values of the same use are given under the same key. -/
structure GivenAlike {α : Type} (g g' : α × Value) : Prop where
  key : g'.1 = g.1
  value : SameUse g.2 g'.2

/-- The values that a run of a report is restricted by: those of its stored filters that apply,
then those that are given. -/
def reportValues (r : Report) (given : List (String × Value)) : List Value :=
  (applicable r (present given)).flatMap (fun f => alternatives f.value) ++
    (present given).flatMap fun g => alternatives g.2

lemma forall₂_filter {α β : Type} {R : α → β → Prop} {p : α → Bool} {q : β → Bool} {xs : List α}
    {ys : List β} (h : List.Forall₂ R xs ys) (hpq : ∀ x y, R x y → q y = p x) :
    List.Forall₂ (fun x y => R x y ∧ p x = true) (xs.filter p) (ys.filter q) := by
  induction h with
  | nil => exact .nil
  | @cons x y xs ys hxy _ ih =>
    rw [List.filter_cons, List.filter_cons, hpq x y hxy]
    cases hp : p x with
    | true => exact .cons ⟨hxy, hp⟩ ih
    | false => exact ih

section
variable {r r' : Report}

lemma ReportsAlike.knownColumns (h : ReportsAlike r r') : r'.knownColumns = r.knownColumns := by
  have hcolumns : r'.filters.map (·.column) = r.filters.map (·.column) := by
    refine List.forall₂_eq_eq_eq ▸ ?_
    rw [List.forall₂_map_left_iff, List.forall₂_map_right_iff]
    exact h.filters.flip.imp fun f' f hf => by rw [hf.rest]
  unfold Report.knownColumns
  rw [hcolumns, h.rest]

/-- The given values of runs that differ in values are checked alike. -/
lemma givenFilters_alike (h : ReportsAlike r r') {runtime runtime' : List (Value × Value)}
    (hrun : List.Forall₂ GivenAlike runtime runtime') :
    Together (List.Forall₂ GivenAlike) (givenFilters r runtime) (givenFilters r' runtime') := by
  induction hrun with
  | nil => exact .ok .nil
  | @cons g g' runtime runtime' hg _ ih =>
    obtain ⟨k, v⟩ := g
    obtain ⟨k', v'⟩ := g'
    obtain ⟨rfl, hv⟩ := hg
    have hcolumn : knownColumn r' k' = knownColumn r k' := by
      unfold knownColumn
      rw [h.knownColumns, h.rest]
    unfold givenFilters
    rw [hcolumn]
    refine .bind_same fun name _ => ?_
    exact .bind ih fun rest rest' _ _ hrest => .ok (.cons ⟨rfl, hv⟩ hrest)

lemma present_alike {given given' : List (String × Value)}
    (h : List.Forall₂ GivenAlike given given') :
    List.Forall₂ (fun g g' => g'.1 = g.1 ∧ SameShape g.2 g'.2) (present given)
      (present given') := by
  have hpresent := forall₂_filter (p := fun g => !isBlankValue g.2)
    (q := fun g => !isBlankValue g.2) h fun g g' hg => by rw [hg.value.isBlankValue]
  exact hpresent.imp fun g g' ⟨hg, hv⟩ => ⟨hg.key, hg.value.sameShape (by simpa using hv)⟩

lemma sortedFilters_alike (h : ReportsAlike r r') :
    List.Forall₂ StoredAlike (sortedFilters r) (sortedFilters r') := by
  obtain ⟨hlength, hzip⟩ := List.forall₂_iff_zip.mp h.filters
  -- Paired up, the filters are sorted once for both reports.
  let pairs := (r.filters.zip r'.filters).mergeSort fun p q => p.1.order ≤ q.1.order
  have hmem : ∀ p ∈ pairs, StoredAlike p.1 p.2 := fun p hp => hzip (List.mem_mergeSort.mp hp)
  have hfst : pairs.map (·.1) = sortedFilters r := by
    have hfilters : (r.filters.zip r'.filters).map (·.1) = r.filters :=
      List.map_fst_zip (Nat.le_of_eq hlength)
    rw [sortedFilters, ← hfilters]
    exact List.map_mergeSort fun p _ q _ => rfl
  have hsnd : pairs.map (·.2) = sortedFilters r' := by
    have hfilters : (r.filters.zip r'.filters).map (·.2) = r'.filters :=
      List.map_snd_zip (Nat.le_of_eq hlength.symm)
    rw [sortedFilters, ← hfilters]
    refine List.map_mergeSort fun p hp q hq => ?_
    rw [(hzip hp).rest, (hzip hq).rest]
  rw [← hfst, ← hsnd, List.forall₂_map_left_iff, List.forall₂_map_right_iff, List.forall₂_same]
  exact hmem

lemma any_column_alike {given given' : List (String × Value)}
    (h : List.Forall₂ (fun g g' => g'.1 = g.1 ∧ SameShape g.2 g'.2) given given')
    (column : String) : given'.any (·.1 == column) = given.any (·.1 == column) := by
  induction h with
  | nil => rfl
  | cons hg _ ih => simp only [List.any_cons, hg.1, ih]

/-- The same stored filters apply beside given values that differ in values. -/
lemma applicable_alike (h : ReportsAlike r r') {given given' : List (String × Value)}
    (hgiven : List.Forall₂ (fun g g' => g'.1 = g.1 ∧ SameShape g.2 g'.2) given given') :
    List.Forall₂ (fun f f' => StoredAlike f f' ∧ isBlankValue f.value = false)
      (applicable r given) (applicable r' given') := by
  have hfilters := forall₂_filter
    (p := fun f => !isBlankValue f.value && !(f.editable && given.any (·.1 == f.column)))
    (q := fun f => !isBlankValue f.value && !(f.editable && given'.any (·.1 == f.column)))
    (sortedFilters_alike h) fun f f' hf => by
      rw [hf.value.isBlankValue, any_column_alike hgiven, hf.rest]
  exact hfilters.imp fun f f' ⟨hf, happlies⟩ => ⟨hf, by simp_all⟩

/-! ### Tests of reports -/

lemma ofStored_alike {f f' : ReportFilter} (h : StoredAlike f f')
    (hvalue : isBlankValue f.value = false) :
    Together Test.Alike (Test.ofStored f) (Test.ofStored f') := by
  have hshape := h.value.sameShape hvalue
  unfold Test.ofStored
  rw [hshape.isList, h.rest]
  dsimp only
  split
  · split
    · exact .ok (.oneOf hshape.length_alternatives.symm _)
    · exact .error _
  · split
    · exact .ok (.compare _ _ _)
    · exact .error _

/-- Two builders are the same under constraints that differ in values, and are bound to given
values. -/
structure SameBound (b : Builder) (vs vs' : List Value) (x x' : Builder) : Prop where
  constraints : ∃ cs cs', List.Forall₂ Constraint.Alike cs cs' ∧ x = constrained b cs ∧
    x' = constrained b cs' ∧ boundValues cs = vs ∧ boundValues cs' = vs'

lemma applyStored_alike {filters filters' : List ReportFilter}
    (h : List.Forall₂ (fun f f' => StoredAlike f f' ∧ isBlankValue f.value = false) filters
      filters') (b : Builder) {cs cs' : List Constraint}
    (hcs : List.Forall₂ Constraint.Alike cs cs') :
    Together (SameBound b (boundValues cs ++ filters.flatMap fun f => alternatives f.value)
        (boundValues cs' ++ filters'.flatMap fun f => alternatives f.value))
      (applyStored (constrained b cs) filters) (applyStored (constrained b cs') filters') := by
  induction h generalizing cs cs' with
  | nil => exact .ok ⟨cs, cs', hcs, rfl, rfl, by simp, by simp⟩
  | @cons f f' filters filters' hf _ ih =>
    unfold applyStored
    refine .bind (ofStored_alike hf.1 hf.2) fun t t' ht ht' htest => ?_
    rw [applyTo_constrained, applyTo_constrained]
    have hcolumn : f'.column = f.column := by rw [hf.1.rest]
    have halike : List.Forall₂ Constraint.Alike (cs ++ [⟨.column f.column none, t⟩])
        (cs' ++ [⟨.column f'.column none, t'⟩]) :=
      List.rel_append hcs (.cons ⟨by rw [hcolumn], htest⟩ .nil)
    have hrest := ih halike
    simpa [boundValues, values_ofStored ht, values_ofStored ht'] using hrest

lemma givenConstraints_alike {given given' : List (String × Value)}
    (h : List.Forall₂ (fun g g' => g'.1 = g.1 ∧ SameShape g.2 g'.2) given given') :
    List.Forall₂ Constraint.Alike (given.map givenConstraint) (given'.map givenConstraint) := by
  rw [List.forall₂_map_left_iff, List.forall₂_map_right_iff]
  exact h.imp fun g g' hg => ⟨by rw [givenConstraint, givenConstraint, hg.1], alike_ofGiven hg.2⟩

lemma boundValues_given (given : List (String × Value)) :
    boundValues (given.map givenConstraint) = given.flatMap fun g => alternatives g.2 := by
  simp only [boundValues, List.flatMap_map, givenConstraint, values_ofGiven]

/-- Two plans of reports differ at most in the values that the runs are restricted by. -/
structure SameReported (r r' : Report) (runtime runtime' : List (Value × Value))
    (p p' : QueryPlan) : Prop where
  plan : SamePlan p p'
  params : ∃ given, givenFilters r runtime = .ok given ∧
    p.params = numbered (reportValues r given)
  params' : ∃ given, givenFilters r' runtime' = .ok given ∧
    p'.params = numbered (reportValues r' given)

/-- The plan of a report by its finished builder. -/
def reportPlan (r : Report) (b : Builder) : QueryPlan where
  statement := b.statement
  params := b.params
  base := r.table
  tables := [r.table]
  dimensions := r.visibleColumns.map shownName

lemma params_reportPlan (r : Report) (b : Builder) (cs : List Constraint) :
    (reportPlan r (constrained b cs)).params = numbered (boundValues cs) := rfl

/-- Runs of reports whose values are of the same uses are planned alike. -/
theorem report_alike (h : ReportsAlike r r') {runtime runtime' : List (Value × Value)}
    (hrun : List.Forall₂ GivenAlike runtime runtime') :
    Together (SameReported r r' runtime runtime') (report r runtime) (report r' runtime') := by
  refine .bind (givenFilters_alike h hrun) fun given given' hgiven hgiven' halike => ?_
  have hpresent := present_alike halike
  have htable : r'.table = r.table := by rw [h.rest]
  have hvisible : r'.visibleColumns = r.visibleColumns := by rw [h.rest]; rfl
  have hprojection : projection r' = projection r := by simp only [projection, hvisible, htable]
  have hnone : List.Forall₂ Constraint.Alike [] [] := .nil
  have hstored := applyStored_alike (applicable_alike h hpresent) (projection r) hnone
  rw [constrained_nil rfl rfl] at hstored
  show Together _ (applyStored (projection r) (applicable r (present given)) >>= _)
    (applyStored (projection r') (applicable r' (present given')) >>= _)
  rw [hprojection]
  refine .bind hstored fun x x' _ _ hx => ?_
  obtain ⟨cs, cs', hcs, rfl, rfl, hvalues, hvalues'⟩ := hx.constraints
  show Together _ (.ok (reportPlan r (applyGiven (constrained (projection r) cs) (present given))))
    (.ok (reportPlan r' (applyGiven (constrained (projection r) cs') (present given'))))
  rw [applyGiven_constrained, applyGiven_constrained]
  have hall := List.rel_append hcs (givenConstraints_alike hpresent)
  refine .ok ⟨⟨?_, ?_⟩, ⟨given, hgiven, ?_⟩, ⟨given', hgiven', ?_⟩⟩
  · show Select.mk _ _ _ _ _ _ = Select.mk _ _ _ _ _ _
    exact congrArg (Select.mk _ _ _ · _ _) (unbound_constrained hall)
  · simp only [reportPlan, hvisible, htable]
  · rw [params_reportPlan, boundValues_append, boundValues_given, hvalues]
    rfl
  · rw [params_reportPlan, boundValues_append, boundValues_given, hvalues']
    rfl

end

end MetricLayer.Plan
