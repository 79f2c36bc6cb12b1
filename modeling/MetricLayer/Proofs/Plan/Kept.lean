import MetricLayer.Proofs.Keyed
import MetricLayer.Proofs.Plan.Scope

/-!
# What a plan keeps

A dimension of a plan is kept if it is read from a reachable table. The columns of selected
dimensions that are kept are shown, each filter on a dimension that is kept becomes one
condition, and whatever is left out leaves a warning.
-/
namespace MetricLayer.Plan
open Sql Join

/-! ### Dimensions of a plan -/

lemma dimension_ids_nodup {fs : List Fact} {dimensions : List Dimension}
    {mappings : List Mapping} {columns : Option Columns} {join : JoinPlan}
    (h : resolve fs dimensions mappings columns = .ok join)
    (hnodup : (dimensions.map (·.id)).Nodup) :
    (join.dimensions.map (·.dimension.id)).Nodup := by
  have hids : (join.dimensions.map (·.dimension)).map (·.id) =
      join.dimensions.map (·.dimension.id) := by simp [Function.comp_def]
  rw [← hids, dimensions_eq h]
  exact (List.filter_sublist.map _).nodup hnodup

/-- The kept dimension of an id is the one that is read from a reachable table. -/
lemma dimension?_iff {join : JoinPlan} (hnodup : (join.dimensions.map (·.dimension.id)).Nodup)
    {id : Int} {r : ResolvedDimension} :
    (Frame.of join).dimension? id = some r ↔
      r ∈ join.dimensions ∧ (Frame.of join).reaches r.table = true ∧ r.dimension.id = id := by
  have hkept : (((Frame.of join).kept).map (·.dimension.id)).Nodup :=
    (List.filter_sublist.map _).nodup hnodup
  rw [Frame.dimension?, find?_reverse_key_iff hkept, Frame.kept, List.mem_filter, and_assoc]
  rfl

/-- The warning for a dimension that is read from an unreachable table. -/
def unreachableWarning (base : String) (r : ResolvedDimension) : String :=
  "Dimension '" ++ r.name ++ "' dropped: table '" ++ r.table ++ "' has no join path to '" ++
    base ++ "'"

lemma mem_chosen {fr : Frame} {selected : List Int} {r : ResolvedDimension} :
    r ∈ fr.chosen selected ↔ ∃ id ∈ selected, fr.dimension? id = some r := by
  simp [Frame.chosen]

/-- No selected dimension is kept exactly if all those that are resolved are read from tables
that are not linked to the base table. -/
lemma chosen_eq_nil_iff {join : JoinPlan}
    (hnodup : (join.dimensions.map (·.dimension.id)).Nodup) {selected : List Int} :
    (Frame.of join).chosen selected = [] ↔
      ∀ r ∈ join.dimensions, r.dimension.id ∈ selected →
        ¬ Linked (join.edges ++ join.links) join.base r.table := by
  rw [List.eq_nil_iff_forall_not_mem]
  constructor
  · intro hnone r hr hid hlinked
    have hkept : (Frame.of join).dimension? r.dimension.id = some r :=
      (dimension?_iff hnodup).mpr ⟨hr, (reaches_iff join _).mpr hlinked, rfl⟩
    exact hnone r (mem_chosen.mpr ⟨r.dimension.id, hid, hkept⟩)
  · intro hnot r hr
    obtain ⟨id, hid, hkept⟩ := mem_chosen.mp hr
    obtain ⟨hmem, hreach, rfl⟩ := (dimension?_iff hnodup).mp hkept
    exact hnot r hmem hid ((reaches_iff join _).mp hreach)

/-- The names of selected dimensions that are reported when none is kept are those of all that
are selected. -/
lemma lostNames_perm {fs : List Fact} {dimensions : List Dimension} {mappings : List Mapping}
    {columns : Option Columns} {join : JoinPlan}
    (h : resolve fs dimensions mappings columns = .ok join) (selected : List Int) :
    ((Frame.of join).lostNames selected).Perm
      ((dimensions.filter fun d => selected.contains d.id).map (·.name)) := by
  have hall : (join.dropped ++ join.dimensions.map (·.dimension)).Perm dimensions := by
    rw [dropped_eq h, dimensions_eq h]
    exact List.filter_append_perm _ dimensions
  have hnames := (hall.filter fun d => selected.contains d.id).map (·.name)
  rw [List.filter_append, List.map_append, List.filter_map, List.map_map] at hnames
  exact hnames

/-- No dimension is kept for the id of one that is read from an unreachable table. -/
lemma dimension?_eq_none {join : JoinPlan}
    (hnodup : (join.dimensions.map (·.dimension.id)).Nodup) {r : ResolvedDimension}
    (hr : r ∈ join.dimensions) (hlost : (Frame.of join).reaches r.table = false) {id : Int}
    (hid : r.dimension.id = id) : (Frame.of join).dimension? id = none := by
  rw [Option.eq_none_iff_forall_ne_some]
  intro s hs
  obtain ⟨hmem, hreach, heq⟩ := (dimension?_iff hnodup).mp hs
  obtain rfl := List.inj_on_of_nodup_map hnodup hr hmem (hid.trans heq.symm)
  rw [hlost] at hreach
  cases hreach

lemma mem_dimensionWarnings {join : JoinPlan} {r : ResolvedDimension}
    (hr : r ∈ join.dimensions) (hlost : (Frame.of join).reaches r.table = false) :
    unreachableWarning join.base r ∈ (Frame.of join).dimensionWarnings := by
  refine List.mem_map_of_mem (List.mem_filter.mpr ⟨hr, ?_⟩)
  simp [hlost]

/-! ### Plans of facts -/

/-- What a plan of facts is, whether it succeeds or not. -/
theorem facts_eq (fs : List Fact) (join : JoinPlan) (selected : List Int)
    (filters : List Filter) (aggregation : Option Aggregation) :
    facts fs join selected filters aggregation =
      if !selected.isEmpty && ((Frame.of join).chosen selected).isEmpty then
        .error (.failure (.noResolvableDimensions ((Frame.of join).lostNames selected)
          (join.warnings ++
            (fs.filter fun f => !(Frame.of join).reaches f.table).map (factWarning join.base) ++
            (Frame.of join).dimensionWarnings)))
      else .ok (assembled (Frame.of join)
        ((fs.filter fun f => (Frame.of join).reaches f.table).map (measureOf aggregation))
        selected filters
        (join.warnings ++
          (fs.filter fun f => !(Frame.of join).reaches f.table).map (factWarning join.base))) :=
  assemble_eq _ _ _ _ _

/-- A plan with a dimension that is kept succeeds. -/
lemma facts_eq_ok {fs : List Fact} {join : JoinPlan} {selected : List Int}
    {filters : List Filter} {aggregation : Option Aggregation}
    (h : (Frame.of join).chosen selected ≠ []) :
    facts fs join selected filters aggregation = .ok (assembled (Frame.of join)
      ((fs.filter fun f => (Frame.of join).reaches f.table).map (measureOf aggregation))
      selected filters
      (join.warnings ++
        (fs.filter fun f => !(Frame.of join).reaches f.table).map (factWarning join.base))) := by
  rw [facts_eq, if_neg]
  simp [h]

/-! ### Columns of a plan -/

/-- A column that is selected under some label and grouped on. -/
structure Shows (s : Select) (column : Expr) : Prop where
  selected : ∃ label, .aliased column label ∈ s.columns
  grouped : column ∈ s.groups

lemma shows_of_chosen {fr : Frame} {measures : List Measure} {selected : List Int}
    {filters : List Filter} {warnings : List String} {r : ResolvedDimension}
    (hr : r ∈ fr.chosen selected) :
    Shows (assembled fr measures selected filters warnings).statement (columnOf r) := by
  have hplace : placeOf r ∈ (labelled measures (fr.chosen selected)).map place :=
    mem_labelled.mpr ⟨r, hr, rfl⟩
  refine ⟨?_, List.mem_map_of_mem hplace⟩
  obtain ⟨⟨t, c, label⟩, hcolumn, heq⟩ := List.mem_map.mp hplace
  obtain ⟨rfl, rfl⟩ : t = r.table ∧ c = r.column := by simpa [place, placeOf] using heq
  exact ⟨label, List.mem_append_right _ (List.mem_map_of_mem hcolumn)⟩

/-! ### Conditions of a plan -/

/-- A condition tests a column against the values of a filter. -/
def TestsFilter (column : Expr) (f : Filter) (condition : Expr) : Prop :=
  ∃ n, condition = (Test.ofGiven f.value).condition column n

/-- The warning for a filter on a dimension that is not kept. -/
def notJoinableWarning (f : Filter) : String :=
  s!"Filter on dimension {f.dimensionId} ignored: not joinable"

/-- The warning for a filter that names no value. -/
def emptyListWarning (r : ResolvedDimension) : String :=
  "Filter on dimension '" ++ r.name ++ "' ignored: empty value list"

lemma filterTarget_eq (fr : Frame) (f : Filter) :
    filterTarget fr f =
      match fr.dimension? f.dimensionId with
      | none => .error (notJoinableWarning f)
      | some r => if isEmptyList f.value then .error (emptyListWarning r) else .ok r := rfl

/-- Conditions and warnings that account for filters in their order: each filter has either
one condition or one warning. -/
inductive Settled (applies : Filter → Expr → Prop) (ignores : Filter → String → Prop) :
    List Filter → List Expr → List String → Prop
  | nil : Settled applies ignores [] [] []
  | condition {f : Filter} {e : Expr} {fs : List Filter} {es : List Expr} {ws : List String} :
    applies f e → Settled applies ignores fs es ws → Settled applies ignores (f :: fs) (e :: es) ws
  | warning {f : Filter} {w : String} {fs : List Filter} {es : List Expr} {ws : List String} :
    ignores f w → Settled applies ignores fs es ws → Settled applies ignores (f :: fs) es (w :: ws)

lemma Settled.imp {applies applies' : Filter → Expr → Prop}
    {ignores ignores' : Filter → String → Prop} {fs : List Filter} {es : List Expr}
    {ws : List String} (h : Settled applies ignores fs es ws)
    (happlies : ∀ f e, applies f e → applies' f e) (hignores : ∀ f w, ignores f w → ignores' f w) :
    Settled applies' ignores' fs es ws := by
  induction h with
  | nil => exact .nil
  | condition h _ ih => exact .condition (happlies _ _ h) ih
  | warning h _ ih => exact .warning (hignores _ _ h) ih

lemma Settled.exists_condition {applies : Filter → Expr → Prop}
    {ignores : Filter → String → Prop} {fs : List Filter} {es : List Expr} {ws : List String}
    (h : Settled applies ignores fs es ws) {f : Filter} (hf : f ∈ fs)
    (hnot : ∀ w, ¬ ignores f w) : ∃ e ∈ es, applies f e := by
  induction h with
  | nil => cases hf
  | condition happlies _ ih =>
    rcases List.mem_cons.mp hf with rfl | hf
    · exact ⟨_, List.mem_cons_self, happlies⟩
    · obtain ⟨e, he, h⟩ := ih hf
      exact ⟨e, List.mem_cons_of_mem _ he, h⟩
  | warning hignores _ ih =>
    rcases List.mem_cons.mp hf with rfl | hf
    · exact absurd hignores (hnot _)
    · exact ih hf

/-- The conditions of a plan and its warnings for filters account for all filters. -/
theorem settled_applied (fr : Frame) (n : Nat) (filters : List Filter) :
    Settled (fun f e => ∃ r, filterTarget fr f = .ok r ∧ TestsFilter (columnOf r) f e)
      (fun f w => filterTarget fr f = .error w)
      filters (conditions n (applied fr filters)) (ignored fr filters) := by
  induction filters generalizing n with
  | nil => exact .nil
  | cons f filters ih =>
    cases hf : filterTarget fr f with
    | ok r =>
      have happlied : applied fr (f :: filters) =
          ⟨columnOf r, Test.ofGiven f.value⟩ :: applied fr filters := by
        simp [applied, hf]
      have hignored : ignored fr (f :: filters) = ignored fr filters := by
        simp [ignored, hf]
      rw [happlied, hignored]
      exact .condition ⟨r, hf, n, rfl⟩ (ih _)
    | error w =>
      have happlied : applied fr (f :: filters) = applied fr filters := by
        simp [applied, hf]
      have hignored : ignored fr (f :: filters) = w :: ignored fr filters := by
        simp [ignored, hf]
      rw [happlied, hignored]
      exact .warning hf (ih n)

/-- A filter that applies is one of the conditions. -/
lemma exists_condition {fr : Frame} {filters : List Filter} {f : Filter}
    {r : ResolvedDimension} (hf : f ∈ filters) (hr : filterTarget fr f = .ok r) :
    ∃ e ∈ conditions 0 (applied fr filters), TestsFilter (columnOf r) f e := by
  obtain ⟨e, he, s, hs, htests⟩ := (settled_applied fr 0 filters).exists_condition hf (by simp [hr])
  rw [hr] at hs
  rw [Except.ok.inj hs]
  exact ⟨e, he, htests⟩

lemma mem_ignored_of {fr : Frame} {filters : List Filter} {f : Filter} {w : String}
    (hf : f ∈ filters) (hw : filterTarget fr f = .error w) : w ∈ ignored fr filters := by
  refine List.mem_filterMap.mpr ⟨f, hf, ?_⟩
  rw [hw]

/-! ### What a plan of facts accounts for -/

/-- The facts on tables that are linked to the base table of a plan. -/
def linkedFacts (join : JoinPlan) (fs : List Fact) : List Fact :=
  fs.filter fun f => Linked (join.edges ++ join.links) join.base f.table

lemma filter_reaches (join : JoinPlan) (fs : List Fact) :
    (fs.filter fun f => (Frame.of join).reaches f.table) = linkedFacts join fs := by
  refine List.filter_congr fun f _ => ?_
  exact Bool.eq_iff_iff.mpr ((reaches_iff join f.table).trans decide_eq_true_iff.symm)

section
variable {fs : List Fact} {join : JoinPlan} {selected : List Int} {filters : List Filter}
  {aggregation : Option Aggregation} {p : QueryPlan}

lemma measures_of_facts (h : facts fs join selected filters aggregation = .ok p) :
    p.measures = (linkedFacts join fs).map (·.name) := by
  rw [facts_ok h, filter_reaches]
  simp only [assembled, List.map_map]
  rfl

/-- Besides measures, only columns of selected dimensions are selected. -/
lemma columns_of_facts (h : facts fs join selected filters aggregation = .ok p)
    (hnodup : (join.dimensions.map (·.dimension.id)).Nodup) :
    ∃ shown, p.statement.columns =
        (linkedFacts join fs).map (fun f => (measureOf aggregation f).item) ++ shown ∧
      ∀ e ∈ shown, ∃ r ∈ join.dimensions, r.dimension.id ∈ selected ∧
        ∃ label, e = .aliased (columnOf r) label := by
  rw [facts_ok h, filter_reaches]
  refine ⟨_, congrArg (· ++ _) (List.map_map), ?_⟩
  intro e he
  obtain ⟨⟨t, column, label⟩, hcolumn, rfl⟩ := List.mem_map.mp he
  obtain ⟨r, hr, heq⟩ := mem_labelled.mp (List.mem_map_of_mem (f := place) hcolumn)
  obtain ⟨rfl, rfl⟩ : t = r.table ∧ column = r.column := by
    simpa [place, placeOf, eq_comm] using heq
  obtain ⟨id, hid, hr⟩ := mem_chosen.mp hr
  obtain ⟨hmem, _, rfl⟩ := (dimension?_iff hnodup).mp hr
  exact ⟨r, hmem, hid, label, rfl⟩

lemma warnings_of_join (h : facts fs join selected filters aggregation = .ok p) :
    join.warnings ⊆ p.warnings := by
  intro w hw
  rw [facts_ok h]
  exact List.mem_append_left _ (List.mem_append_left _ (List.mem_append_left _ hw))

lemma factWarning_mem (h : facts fs join selected filters aggregation = .ok p) {f : Fact}
    (hf : f ∈ fs) (hnot : ¬ Linked (join.edges ++ join.links) join.base f.table) :
    factWarning join.base f ∈ p.warnings := by
  rw [facts_ok h]
  refine List.mem_append_left _ (List.mem_append_left _ (List.mem_append_right _ ?_))
  refine List.mem_map_of_mem (List.mem_filter.mpr ⟨hf, ?_⟩)
  rw [Bool.not_eq_true', Bool.eq_false_iff]
  exact mt (reaches_iff join f.table).mp hnot

/-- A selected dimension that is resolved is shown or has a warning. -/
lemma shown_or_warned (h : facts fs join selected filters aggregation = .ok p)
    (hnodup : (join.dimensions.map (·.dimension.id)).Nodup) {r : ResolvedDimension}
    (hr : r ∈ join.dimensions) (hid : r.dimension.id ∈ selected) :
    Shows p.statement (columnOf r) ∨ unreachableWarning join.base r ∈ p.warnings := by
  rw [facts_ok h]
  cases hreach : (Frame.of join).reaches r.table with
  | true =>
    have hkept := (dimension?_iff hnodup).mpr ⟨hr, hreach, rfl⟩
    exact .inl (shows_of_chosen (mem_chosen.mpr ⟨_, hid, hkept⟩))
  | false =>
    exact .inr (List.mem_append_left _
      (List.mem_append_right _ (mem_dimensionWarnings hr hreach)))

/-- The conditions of a plan, and some of its warnings, account for all filters. -/
lemma settled_of_facts (h : facts fs join selected filters aggregation = .ok p)
    (hnodup : (join.dimensions.map (·.dimension.id)).Nodup) :
    ∃ es before ws, p.statement.condition = conjunction es ∧ p.warnings = before ++ ws ∧
      Settled
        (fun f e => ∃ r ∈ join.dimensions, r.dimension.id = f.dimensionId ∧
          TestsFilter (columnOf r) f e)
        (fun f w => w = notJoinableWarning f ∨
          ∃ r ∈ join.dimensions, r.dimension.id = f.dimensionId ∧ w = emptyListWarning r)
        filters es ws := by
  rw [facts_ok h]
  refine ⟨_, _, _, rfl, rfl, (settled_applied (Frame.of join) 0 filters).imp ?_ ?_⟩
  · rintro f e ⟨r, htarget, htests⟩
    obtain ⟨hr, _, hid⟩ := (dimension?_iff hnodup).mp (filterTarget_ok htarget).1
    exact ⟨r, hr, hid, htests⟩
  · intro f w hw
    rw [filterTarget_eq] at hw
    split at hw
    · exact .inl (Except.error.inj hw).symm
    · rename_i r hkept
      obtain ⟨hr, _, hid⟩ := (dimension?_iff hnodup).mp hkept
      split at hw
      · exact .inr ⟨r, hr, hid, (Except.error.inj hw).symm⟩
      · cases hw

end

end MetricLayer.Plan
