import MetricLayer.Proofs.Fault
import MetricLayer.Proofs.Plan.Kept
import MetricLayer.Proofs.Plan.Label

/-!
# Grouping and labels

A plan groups on exactly the columns of the dimensions it shows, in the order it shows them and
each once. Its columns have labels that differ, so that each cell of a row can be found under
the label of its column.
-/
namespace MetricLayer.Plan
open Sql

/-! ### Labels of columns -/

/-- The label of a selected column. -/
def labelOf (column : String × String × String) : String := column.2.2

/-- The taken labels are those of the columns selected so far and the ones taken before, each
once. -/
structure Labels.Apart (before : List String) (l : Labels) : Prop where
  taken : l.taken = (l.columns.map labelOf).reverse ++ before
  nodup : l.taken.Nodup

lemma Labels.Apart.add {before : List String} {l : Labels} (h : l.Apart before)
    (r : ResolvedDimension) : (l.add r).Apart before := by
  unfold Labels.add
  split
  · exact h
  · obtain ⟨label, hlabel, hfree⟩ :=
      uniqueLabel_of_ne_nil l.taken (List.cons_ne_nil r.column [r.name])
    rw [hlabel, Option.getD_some]
    exact ⟨by simp [h.taken, labelOf], List.nodup_cons.mpr ⟨hfree, h.nodup⟩⟩

lemma Labels.Apart.foldl {before : List String} {l : Labels} (h : l.Apart before)
    (rs : List ResolvedDimension) : (rs.foldl Labels.add l).Apart before := by
  induction rs generalizing l with
  | nil => exact h
  | cons r rs ih => exact ih (h.add r)

/-- Measures with different labels keep them beside the columns of dimensions. -/
theorem labels_nodup {measures : List Measure} (h : (measures.map (·.label)).Nodup)
    (chosen : List ResolvedDimension) :
    (measures.map (·.label) ++ (labelled measures chosen).map labelOf).Nodup := by
  have hapart : (chosen.foldl Labels.add ⟨measures.map (·.label), []⟩).Apart
      (measures.map (·.label)) := Labels.Apart.foldl ⟨by simp, h⟩ chosen
  have hnodup := hapart.nodup
  rw [hapart.taken, List.nodup_append_comm] at hnodup
  exact (((List.reverse_perm _).append_left _).nodup_iff).mp hnodup

/-! ### Rows -/

/-- A cell under the label of its column. -/
def labelledCell (c : String × Value) : Value × Value := (.str c.1, c.2)

lemma put_of_not_mem {cells : List (String × Value)} {label : String}
    (h : label ∉ cells.map (·.1)) (v : Value) :
    Value.put (cells.map labelledCell) (.str label) v =
      (cells ++ [(label, v)]).map labelledCell := by
  induction cells with
  | nil => simp [Value.put, labelledCell]
  | cons c cells ih =>
    simp only [List.map_cons, List.mem_cons, not_or] at h
    have hne : (c.1 == label) = false := by simpa using Ne.symm h.1
    simp [Value.put, labelledCell, Value.alike, hne, ih h.2]

lemma putAll_of_nodup (before : List (String × Value)) {cells : List (String × Value)}
    (h : ((before ++ cells).map (·.1)).Nodup) :
    Value.putAll (before.map labelledCell) (cells.map labelledCell) =
      (before ++ cells).map labelledCell := by
  induction cells generalizing before with
  | nil => simp [Value.putAll]
  | cons c cells ih =>
    have hc : c.1 ∉ before.map (·.1) := by
      rw [List.map_append, List.nodup_append] at h
      intro hmem
      exact h.2.2 _ hmem c.1 (by simp) rfl
    have hput := put_of_not_mem hc c.2
    have hrest := ih (before ++ [c]) (by simpa using h)
    rw [List.append_assoc, List.singleton_append] at hrest
    rw [← hrest, ← hput]
    rfl

/-- The mapping of a row under different labels has every cell under its label. -/
theorem ofEntries_of_nodup {cells : List (String × Value)} (h : (cells.map (·.1)).Nodup) :
    Value.ofEntries (cells.map labelledCell) = .record cells := by
  have hputAll := putAll_of_nodup [] (by simpa using h)
  unfold Value.ofEntries
  split
  · rfl
  · exact congrArg Value.map hputAll

/-! ### Plans -/

/-- The measure of a derived metric. -/
def kpiMeasure (e : Kpi.Expansion) : Measure := ⟨.raw (e.sql ++ " AS " ++ kpiLabel), kpiLabel, true⟩

/-- How a statement groups and labels its columns: measures come first, and are not grouped on.
`shown` are the columns of the selected dimensions with their labels. -/
structure Grouped (selected : List Int) (chosen : List ResolvedDimension)
    (measures : List Measure) (s : Select) (shown : List (Expr × String)) : Prop where
  columns : s.columns = measures.map (·.item) ++ shown.map fun c => .aliased c.1 c.2
  groups : s.groups = shown.map (·.1)
  /-- The columns of the dimensions, each once, in the order of the selection. -/
  chosen : s.groups = (chosen.map placeOf).eraseDups.map columnAt
  distinct : s.groups.Nodup
  ungrouped : s.groups = [] ↔ selected = []
  apart : (measures.map (·.label) ++ shown.map (·.2)).Nodup
  /-- A row keeps all of its cells when it becomes a mapping. -/
  rows : ∀ cells : List Value, cells.length = s.columns.length →
    ∃ row : List (String × Value), row.map (·.1) = measures.map (·.label) ++ shown.map (·.2) ∧
      row.map (·.2) = cells ∧ Value.ofEntries (row.map labelledCell) = .record row

lemma columnAt_injective : Function.Injective columnAt := by
  rintro ⟨t, c⟩ ⟨u, d⟩ h
  simp_all [columnAt]

/-- Cells with the different labels of their columns. -/
lemma exists_row {labels : List String} (hlabels : labels.Nodup) {cells : List Value}
    (hlength : cells.length = labels.length) :
    ∃ row : List (String × Value), row.map (·.1) = labels ∧ row.map (·.2) = cells ∧
      Value.ofEntries (row.map labelledCell) = .record row := by
  have hfst : (labels.zip cells).map (·.1) = labels := List.map_fst_zip (by omega)
  exact ⟨labels.zip cells, hfst, List.map_snd_zip (by omega),
    ofEntries_of_nodup (by rwa [hfst])⟩

/-- A plan of measures with different labels groups on the columns of its dimensions, and all of
its labels differ. -/
theorem grouped_of_assemble {fr : Frame} {measures : List Measure} {selected : List Int}
    {filters : List Filter} {warnings : List String} {p : QueryPlan}
    (h : assemble fr measures selected filters warnings = .ok p)
    (hlabels : (measures.map (·.label)).Nodup) :
    ∃ shown, Grouped selected (fr.chosen selected) measures p.statement shown := by
  obtain ⟨rfl, hkept⟩ := assemble_ok h
  have hplaces := places_labelled measures (fr.chosen selected)
  have happart := labels_nodup hlabels (fr.chosen selected)
  have hlabelOf : ((labelled measures (fr.chosen selected)).map
      fun c => (columnAt (place c), labelOf c)).map (·.2) =
      (labelled measures (fr.chosen selected)).map labelOf := by simp
  refine ⟨(labelled measures (fr.chosen selected)).map fun c => (columnAt (place c), labelOf c),
    ?_, ?_, ?_, ?_, ?_, ?_, ?_⟩
  · simp only [assembled, List.map_map]
    rfl
  · simp [assembled]
  · exact congrArg (List.map columnAt) hplaces
  · exact (labelled_nodup measures _).map columnAt_injective
  · have hnone : (labelled measures (fr.chosen selected)).map place = [] ↔
        fr.chosen selected = [] := by
      simp only [List.eq_nil_iff_forall_not_mem, mem_labelled]
      simp
    simpa [assembled, hkept] using hnone
  · rwa [hlabelOf]
  · intro cells hlength
    rw [hlabelOf]
    refine exists_row happart ?_
    simpa [assembled] using hlength

/-- Plans of facts with different names, and plans of derived metrics, are grouped on exactly
the columns of their dimensions, and their labels differ. -/
theorem grouped_and_labelled :
    (∀ (fs : List Fact) (join : JoinPlan) (selected : List Int) (filters : List Filter)
        (aggregation : Option Aggregation) (p : QueryPlan),
      facts fs join selected filters aggregation = .ok p → (fs.map (·.name)).Nodup →
      p.measures = (linkedFacts join fs).map (·.name) ∧
        ∃ shown, Grouped selected ((Frame.of join).chosen selected)
          ((linkedFacts join fs).map (measureOf aggregation)) p.statement shown) ∧
    (∀ (name : String) (e : Kpi.Expansion) (join : JoinPlan) (selected : List Int)
        (filters : List Filter) (p : QueryPlan),
      kpi name e join selected filters = .ok p →
      ∃ shown, Grouped selected ((Frame.of join).chosen selected) [kpiMeasure e]
        p.statement shown) := by
  refine ⟨?_, ?_⟩
  · intro fs join selected filters aggregation p h hnames
    refine ⟨measures_of_facts h, ?_⟩
    have hlabels : (((linkedFacts join fs).map (measureOf aggregation)).map (·.label)).Nodup := by
      rw [List.map_map]
      exact (List.filter_sublist.map _).nodup hnames
    rw [← filter_reaches] at hlabels ⊢
    exact grouped_of_assemble h hlabels
  · intro name e join selected filters p h
    obtain ⟨plan, hplan, h⟩ := bind_eq_ok h
    obtain rfl := Except.ok.inj h
    have hgrouped := grouped_of_assemble hplan (List.nodup_singleton kpiLabel)
    exact hgrouped

/-- A fact whose name is that of a column. -/
def namedFact : Fact := ⟨1, 1, "name", "orders", "amount", .sum⟩

/-- Two dimensions of one name on two tables, and a third on a column of the first. -/
def regionsJoin : JoinPlan :=
  ⟨"orders",
    [⟨"regions", "id", "orders", "region_id"⟩, ⟨"states", "id", "orders", "state_id"⟩], [],
    [⟨⟨1, 1, "Region", "regions", "name"⟩, "regions", "name", [1]⟩,
      ⟨⟨2, 1, "Region", "states", "name"⟩, "states", "name", [1]⟩,
      ⟨⟨3, 1, "Area", "regions", "name"⟩, "regions", "name", [1]⟩], [], []⟩

/-- The first dimension is shown under its name, since the fact has the label of the column, and
the second needs a number. The third adds no column. -/
theorem grouped_and_labelled_regions :
    ([namedFact].map (·.name)).Nodup ∧
      (∃ p, facts [namedFact] regionsJoin [1, 2, 3] [] none = .ok p ∧
        p.statement.columns = [(measureOf none namedFact).item,
          .aliased (columnAt ("regions", "name")) "Region",
          .aliased (columnAt ("states", "name")) "Region_2"] ∧
        p.measures = (linkedFacts regionsJoin [namedFact]).map (·.name) ∧
        ∃ shown, Grouped [1, 2, 3] ((Frame.of regionsJoin).chosen [1, 2, 3])
          ((linkedFacts regionsJoin [namedFact]).map (measureOf none)) p.statement shown) ∧
      ∃ p, kpi "Net" ⟨"SUM(amount)", [namedFact]⟩ regionsJoin [2, 1] [] = .ok p ∧
        ∃ shown, Grouped [2, 1] ((Frame.of regionsJoin).chosen [2, 1])
          [kpiMeasure ⟨"SUM(amount)", [namedFact]⟩] p.statement shown := by
  have hnames : ([namedFact].map (·.name)).Nodup := List.nodup_singleton _
  obtain ⟨hmeasures, hgrouped⟩ :=
    grouped_and_labelled.1 [namedFact] regionsJoin [1, 2, 3] [] none _ rfl hnames
  have hkpi :=
    grouped_and_labelled.2 "Net" ⟨"SUM(amount)", [namedFact]⟩ regionsJoin [2, 1] [] _ rfl
  exact ⟨hnames, ⟨_, rfl, by rfl, hmeasures, hgrouped⟩, _, rfl, hkpi⟩

end MetricLayer.Plan
