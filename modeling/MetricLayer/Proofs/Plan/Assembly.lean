import MetricLayer.Proofs.Keyed
import MetricLayer.Proofs.Plan.Condition

/-!
# The closed form of aggregate plans

Planning either fails because every selected dimension is lost, or gives a statement whose
clauses are read off the frame: the measures and the distinct columns of the chosen dimensions,
the steps of the join tree, and the conditions of the filters that apply.
-/
namespace MetricLayer.Plan
open Sql

/-! ### Columns of dimensions -/

/-- Where a selected column is read from. -/
def place (column : String × String × String) : String × String := (column.1, column.2.1)

/-- Where a dimension is read from. -/
def placeOf (r : ResolvedDimension) : String × String := (r.table, r.column)

/-- The places selected so far. -/
def Labels.places (l : Labels) : List (String × String) := l.columns.map place

lemma places_add (l : Labels) (r : ResolvedDimension) :
    (l.add r).places =
      if placeOf r ∈ l.places then l.places else l.places ++ [placeOf r] := by
  have hany : (l.columns.any fun c => c.1 == r.table && c.2.1 == r.column) = true ↔
      placeOf r ∈ l.places := by
    simp [Labels.places, place, placeOf]
  unfold Labels.add
  by_cases h : placeOf r ∈ l.places
  · rw [if_pos (hany.mpr h), if_pos h]
  · rw [if_neg (mt hany.mp h), if_neg h]
    simp [Labels.places, place, placeOf]

lemma places_foldl (rs : List ResolvedDimension) (l : Labels) (hl : l.places.Nodup) :
    (rs.foldl Labels.add l).places = (l.places ++ rs.map placeOf).eraseDups := by
  induction rs generalizing l with
  | nil => simpa using (eraseDups_of_nodup hl).symm
  | cons r rs ih =>
    rw [List.foldl_cons, List.map_cons]
    by_cases h : placeOf r ∈ l.places
    · have hadd : (l.add r).places = l.places := by rw [places_add, if_pos h]
      rw [ih _ (by rwa [hadd]), hadd, eraseDups_append_cons h]
    · have hadd : (l.add r).places = l.places.concat (placeOf r) := by
        rw [places_add, if_neg h, List.concat_eq_append]
      rw [ih _ (by rw [hadd]; exact hl.concat h), hadd, List.concat_append]

/-- The selected columns are those of the chosen dimensions, each once. -/
theorem places_labelled (measures : List Measure) (chosen : List ResolvedDimension) :
    (labelled measures chosen).map place = (chosen.map placeOf).eraseDups := by
  have h := places_foldl chosen ⟨measures.map (·.label), []⟩ (by simp [Labels.places])
  rwa [Labels.places, Labels.places, List.map_nil, List.nil_append] at h

/-- The selected columns are read from different places. -/
theorem labelled_nodup (measures : List Measure) (chosen : List ResolvedDimension) :
    ((labelled measures chosen).map place).Nodup := by
  rw [places_labelled]
  exact nodup_eraseDups _

/-- The selected columns are those of the chosen dimensions. -/
theorem mem_labelled {measures : List Measure} {chosen : List ResolvedDimension}
    {p : String × String} :
    p ∈ (labelled measures chosen).map place ↔ ∃ r ∈ chosen, placeOf r = p := by
  rw [places_labelled, List.mem_eraseDups, List.mem_map]

/-! ### Grouping -/

/-- The expression of a place. -/
def columnAt (p : String × String) : Expr := .column p.2 (some p.1)

lemma alike_columnAt (p q : String × String) :
    (columnAt p).alike (columnAt q) = true ↔ p = q := by
  obtain ⟨t, c⟩ := p
  obtain ⟨u, d⟩ := q
  simp [columnAt, Expr.alike, and_comm]

lemma groupBy_columnAt (b : Builder) (ps qs : List (String × String))
    (hb : b.groups = ps.map columnAt) (hnodup : (ps ++ qs).Nodup) :
    b.groupBy (qs.map columnAt) = { b with groups := (ps ++ qs).map columnAt } := by
  induction qs generalizing b ps with
  | nil =>
    cases b
    simp_all [Builder.groupBy]
  | cons q qs ih =>
    have hq : q ∉ ps := by
      intro hmem
      exact (List.nodup_append.mp hnodup).2.2 q hmem q (by simp) rfl
    have hon : b.groupOn (columnAt q) = { b with groups := (ps ++ [q]).map columnAt } := by
      have hnone : (b.groups.any fun g => (columnAt q).alike g) = false := by
        rw [hb, List.any_map, List.any_eq_false]
        intro p hp halike
        exact hq ((alike_columnAt q p).mp halike ▸ hp)
      rw [Builder.groupOn, hnone, hb]
      simp
    have hnodup' : ((ps ++ [q]) ++ qs).Nodup := by simpa using hnodup
    have hrest := ih { b with groups := (ps ++ [q]).map columnAt } (ps ++ [q]) rfl hnodup'
    simp only [Builder.groupBy, List.map_cons, List.foldl_cons, hon] at hrest ⊢
    rw [hrest]
    simp

/-- The columns of dimensions are all grouped on. -/
lemma groupBy_labelled (b : Builder) (hb : b.groups = []) (measures : List Measure)
    (chosen : List ResolvedDimension) :
    b.groupBy ((labelled measures chosen).map fun c => .column c.2.1 (some c.1)) =
      { b with groups := ((labelled measures chosen).map place).map columnAt } := by
  have hmap : ((labelled measures chosen).map fun c => Expr.column c.2.1 (some c.1)) =
      ((labelled measures chosen).map place).map columnAt := by
    rw [List.map_map]
    rfl
  rw [hmap]
  exact groupBy_columnAt b [] _ hb (labelled_nodup measures chosen)

/-! ### Plans -/

/-- The plan of measures over a frame, if it does not fail. -/
def assembled (fr : Frame) (measures : List Measure) (selected : List Int)
    (filters : List Filter) (warnings : List String) : QueryPlan :=
  let columns := labelled measures (fr.chosen selected)
  let steps := Join.stepsFrom fr.edges fr.join.base
  { statement := {
      columns := measures.map (·.item) ++
        columns.map fun (t, c, label) => .aliased (.column c (some t)) label
      source := some ⟨fr.join.base, none⟩
      joins := steps.map joinOf
      condition := conjunction (conditions 0 (applied fr filters))
      groups := (columns.map place).map columnAt }
    params := (boundValues (applied fr filters)).mapIdx fun i v => (paramName i, v)
    base := fr.join.base
    tables := fr.join.base :: steps.map (·.table)
    dimensions := (fr.chosen selected).map (·.name)
    measures := measures.map (·.label)
    warnings := warnings ++ fr.dimensionWarnings ++ ignored fr filters }

theorem assemble_eq (fr : Frame) (measures : List Measure) (selected : List Int)
    (filters : List Filter) (warnings : List String) :
    assemble fr measures selected filters warnings =
      if !selected.isEmpty && (fr.chosen selected).isEmpty then
        .error (.failure (.noResolvableDimensions (fr.lostNames selected)
          (warnings ++ fr.dimensionWarnings)))
      else .ok (assembled fr measures selected filters warnings) := by
  unfold assemble
  simp only
  split
  · rfl
  · have hfilters := applyFilters_constrained fr
      (skeleton measures (labelled measures (fr.chosen selected)) fr.join.base
        (Join.stepsFrom fr.edges fr.join.base)) [] filters
    have hgroups := groupBy_labelled
      (constrained (skeleton measures (labelled measures (fr.chosen selected)) fr.join.base
        (Join.stepsFrom fr.edges fr.join.base)) (applied fr filters)) rfl measures
      (fr.chosen selected)
    rw [constrained_nil rfl rfl, List.nil_append] at hfilters
    rw [hfilters]
    simp only [hgroups]
    rfl

/-- Of a plan that does not fail, some selected dimension is chosen if any is selected. -/
lemma assemble_ok {fr : Frame} {measures : List Measure} {selected : List Int}
    {filters : List Filter} {warnings : List String} {p : QueryPlan}
    (h : assemble fr measures selected filters warnings = .ok p) :
    p = assembled fr measures selected filters warnings ∧
      (fr.chosen selected = [] ↔ selected = []) := by
  rw [assemble_eq] at h
  split at h
  · cases h
  · rename_i hkept
    refine ⟨(Except.ok.inj h).symm, ?_, ?_⟩
    · intro hnone
      simpa [hnone] using hkept
    · rintro rfl
      rfl

/-- What a planned aggregation of facts is. -/
theorem facts_ok {fs : List Fact} {join : JoinPlan} {selected : List Int}
    {filters : List Filter} {aggregation : Option Aggregation} {p : QueryPlan}
    (h : facts fs join selected filters aggregation = .ok p) :
    p = assembled (Frame.of join)
      ((fs.filter fun f => (Frame.of join).reaches f.table).map (measureOf aggregation))
      selected filters
      (join.warnings ++
        (fs.filter fun f => !(Frame.of join).reaches f.table).map (factWarning join.base)) :=
  (assemble_ok h).1

/-- What a planned derived metric is. -/
theorem kpi_ok {name : String} {e : Kpi.Expansion} {join : JoinPlan} {selected : List Int}
    {filters : List Filter} {p : QueryPlan}
    (h : kpi name e join selected filters = .ok p) :
    p = { assembled (Frame.of join) [⟨.raw (e.sql ++ " AS " ++ kpiLabel), kpiLabel, true⟩]
            selected filters
            (join.warnings ++ (e.facts.filter fun f =>
              !(Frame.of join).reaches f.table).map (kpiWarning name join.base)) with
          measures := [name] } := by
  unfold kpi at h
  simp only [assemble_eq] at h
  split at h
  · cases h
  · exact (Except.ok.inj h).symm

end MetricLayer.Plan
