import MetricLayer.Proofs.Join.Resolution
import MetricLayer.Proofs.Join.Spanning
import MetricLayer.Proofs.Plan.Assembly
import MetricLayer.Proofs.Sql.Scope

/-!
# Planned statements are well scoped

Measures, selected columns and conditions are each restricted to the tables that the join tree
reaches, and these are the tables that the statement introduces. So no column of a planned
statement is read from a table that is not there.
-/
namespace MetricLayer.Plan
open Sql

lemma reaches_iff (join : JoinPlan) (t : String) :
    (Frame.of join).reaches t = true ↔
      Join.Linked (join.edges ++ join.links) join.base t := by
  rw [← Join.mem_reachable]
  simp [Frame.reaches, Frame.of]

/-! ### Columns of kept dimensions -/

lemma reaches_of_dimension? {fr : Frame} {id : Int} {r : ResolvedDimension}
    (h : fr.dimension? id = some r) : fr.reaches r.table = true := by
  have hmem := List.mem_of_find?_eq_some h
  rw [List.mem_reverse, Frame.kept, List.mem_filter] at hmem
  exact hmem.2

lemma reaches_of_chosen {fr : Frame} {selected : List Int} {r : ResolvedDimension}
    (h : r ∈ fr.chosen selected) : fr.reaches r.table = true := by
  obtain ⟨id, _, hid⟩ := List.mem_filterMap.mp h
  exact reaches_of_dimension? hid

lemma filterTarget_ok {fr : Frame} {f : Filter} {r : ResolvedDimension}
    (h : filterTarget fr f = .ok r) :
    fr.dimension? f.dimensionId = some r ∧ isEmptyList f.value = false := by
  unfold filterTarget at h
  split at h
  · cases h
  · rename_i s hs
    split at h
    · cases h
    · rename_i hvalue
      rw [← Except.ok.inj h]
      exact ⟨hs, by simpa using hvalue⟩

/-! ### Assembled statements -/

lemma introduced_assembled (fr : Frame) (measures : List Measure) (selected : List Int)
    (filters : List Filter) (warnings : List String) :
    (assembled fr measures selected filters warnings).statement.introduced =
      Join.reachable fr.edges fr.join.base := by
  simp [assembled, Select.introduced, Join.reachable, joinOf, Function.comp_def]

/-- The join of a step is on the table it adds and the parent of the step. -/
lemma within_condition_step (s : JoinStep) : s.condition.Within [s.table, s.parent] := by
  intro r hr
  simp only [JoinStep.condition, equality, Expr.references, List.singleton_append,
    List.mem_cons, List.not_mem_nil, or_false] at hr
  rcases hr with rfl | rfl
  · exact ⟨s.table, by simp, rfl⟩
  · exact ⟨s.parent, by simp, rfl⟩

/-- A labelled column is read from a table that is reached. -/
lemma reachable_of_labelled {fr : Frame} {measures : List Measure} {selected : List Int}
    {p : String × String} (hp : p ∈ (labelled measures (fr.chosen selected)).map place) :
    p.1 ∈ fr.reachable := by
  obtain ⟨r, hr, rfl⟩ := mem_labelled.mp hp
  simpa [Frame.reaches, placeOf] using reaches_of_chosen hr

/-- Filters only test columns of tables that are reached. -/
lemma within_applied {fr : Frame} {filters : List Filter} {n : Nat} {e : Expr}
    (he : conjunction (conditions n (applied fr filters)) = some e) : e.Within fr.reachable := by
  intro r hr
  rw [references_conjunction he, List.mem_flatMap] at hr
  obtain ⟨d, hd, hr⟩ := hr
  obtain ⟨c, hc, k, rfl⟩ := mem_conditions hd
  obtain ⟨f, _, target, htarget, rfl⟩ := mem_applied hc
  rw [references_condition] at hr
  have hreach : target.table ∈ fr.reachable := by
    simpa [Frame.reaches] using reaches_of_dimension? (filterTarget_ok htarget).1
  exact Expr.within_column hreach target.column r hr

/-- A step of the search starts from the base table or from one that an earlier step added. -/
lemma parent_of_split {edges : List JoinEdge} {base : String} {before after : List JoinStep}
    {s : JoinStep} (h : Join.stepsFrom edges base = before ++ s :: after) :
    s.parent ∈ base :: before.map (·.table) := by
  have hgrows := Join.stepsFrom_grows edges base
  rw [h] at hgrows
  simpa using hgrows.parent_mem

theorem assembled_wellScoped (join : JoinPlan) (measures : List Measure)
    (selected : List Int) (filters : List Filter) (warnings : List String)
    (hm : ∀ m ∈ measures, m.item.Within (Frame.of join).reachable) :
    (assembled (Frame.of join) measures selected filters warnings).statement.WellScoped := by
  refine ⟨⟨join.base, rfl⟩, ?_, ?_, ?_, ?_, ?_⟩
  · rw [introduced_assembled]
    exact Join.reachable_nodup _ _
  · intro before j after hsplit
    obtain ⟨done, rest, hsteps, rfl, hrest⟩ := List.map_eq_append_iff.mp hsplit
    obtain ⟨s, later, rfl, rfl, _⟩ := List.map_eq_cons_iff.mp hrest
    have hparent : s.parent ∈ ({ (assembled (Frame.of join) measures selected filters
        warnings).statement with joins := done.map joinOf } : Select).introduced := by
      simpa [assembled, Select.introduced, joinOf, Function.comp_def, Frame.of]
        using parent_of_split hsteps
    exact ⟨rfl, s.condition, rfl, s.parent, hparent, within_condition_step s⟩
  · rw [introduced_assembled]
    intro e he
    rcases List.mem_append.mp he with he | he
    · obtain ⟨m, hmem, rfl⟩ := List.mem_map.mp he
      exact hm m hmem
    · obtain ⟨c, hc, rfl⟩ := List.mem_map.mp he
      have hwithin := Expr.within_column
        (reachable_of_labelled (List.mem_map_of_mem hc)) c.2.1
      intro r hr
      exact hwithin r hr
  · rw [introduced_assembled]
    intro e he
    exact within_applied he
  · rw [introduced_assembled]
    intro e he
    obtain ⟨p, hp, rfl⟩ := List.mem_map.mp he
    exact Expr.within_column (reachable_of_labelled hp) p.2

lemma within_measure (aggregation : Option Aggregation) (f : Fact) {tables : List String}
    (h : f.table ∈ tables) : (measureOf aggregation f).item.Within tables := by
  intro r hr
  simp only [measureOf, Measure.item, Bool.false_eq_true, if_false, Expr.references,
    Expr.referencesAll, List.append_nil, List.mem_singleton] at hr
  exact ⟨f.table, h, by rw [hr]⟩

/-! ### Plans -/

/-- A plan whose statement is well scoped, that lists the tables of the statement, and that
joins the tables linked to its base table. -/
structure Grounded (join : JoinPlan) (p : QueryPlan) : Prop where
  wellScoped : p.statement.WellScoped
  tables : p.tables = p.statement.introduced
  linked : ∀ t, t ∈ p.tables ↔ Join.Linked (join.edges ++ join.links) join.base t

lemma assembled_grounded (join : JoinPlan) (measures : List Measure) (selected : List Int)
    (filters : List Filter) (warnings : List String)
    (hm : ∀ m ∈ measures, m.item.Within (Frame.of join).reachable) :
    Grounded join (assembled (Frame.of join) measures selected filters warnings) := by
  refine ⟨assembled_wellScoped join measures selected filters warnings hm, ?_, ?_⟩
  · rw [introduced_assembled]
    rfl
  · exact fun t => Join.mem_reachable

lemma facts_grounded {fs : List Fact} {join : JoinPlan} {selected : List Int}
    {filters : List Filter} {aggregation : Option Aggregation} {p : QueryPlan}
    (h : facts fs join selected filters aggregation = .ok p) : Grounded join p := by
  rw [facts_ok h]
  refine assembled_grounded join _ _ _ _ ?_
  intro m hm
  obtain ⟨f, hf, rfl⟩ := List.mem_map.mp hm
  have hreach := (List.mem_filter.mp hf).2
  exact within_measure aggregation f (by simpa [Frame.reaches] using hreach)

lemma kpi_grounded {name : String} {e : Kpi.Expansion} {join : JoinPlan}
    {selected : List Int} {filters : List Filter} {p : QueryPlan}
    (h : kpi name e join selected filters = .ok p) : Grounded join p := by
  rw [kpi_ok h]
  have hraw : ∀ m ∈ [(⟨.raw (e.sql ++ " AS " ++ kpiLabel), kpiLabel, true⟩ : Measure)],
      m.item.Within (Frame.of join).reachable := by
    intro m hm r hr
    rw [List.mem_singleton.mp hm] at hr
    simp [Measure.item, Expr.references] at hr
  have hg := assembled_grounded join _ selected filters (join.warnings ++ (e.facts.filter
    fun f => !(Frame.of join).reaches f.table).map (kpiWarning name join.base)) hraw
  exact ⟨hg.wellScoped, hg.tables, hg.linked⟩

/-- Planned statements are well scoped. A plan over resolved joins selects the measure of its
first fact, and a derived metric either reaches the table of a fact or warns about it. -/
theorem planned_wellScoped :
    (∀ (fs : List Fact) (join : JoinPlan) (selected : List Int) (filters : List Filter)
        (aggregation : Option Aggregation) (p : QueryPlan),
      facts fs join selected filters aggregation = .ok p →
      Grounded join p ∧
        ∀ (dimensions : List Dimension) (mappings : List Mapping)
          (columns : Option Join.Columns),
          Join.resolve fs dimensions mappings columns = .ok join →
          ∃ f rest, fs = f :: rest ∧
            p.statement.columns.head? = some (measureOf aggregation f).item) ∧
    (∀ (name : String) (e : Kpi.Expansion) (join : JoinPlan) (selected : List Int)
        (filters : List Filter) (p : QueryPlan),
      kpi name e join selected filters = .ok p →
      Grounded join p ∧
        p.statement.columns.head? = some (.raw (e.sql ++ " AS " ++ kpiLabel)) ∧
        ∃ added, p.warnings = join.warnings ++ added ∧
          ∀ f ∈ e.facts, kpiWarning name join.base f ∈ added ∨ f.table ∈ p.tables) := by
  refine ⟨?_, ?_⟩
  · intro fs join selected filters aggregation p h
    refine ⟨facts_grounded h, ?_⟩
    intro dimensions mappings columns hresolve
    obtain ⟨f, rest, _, rfl, hjoin⟩ := Join.resolve_ok hresolve
    have hreach : (Frame.of join).reaches f.table = true := by
      rw [reaches_iff, hjoin]
      exact .refl
    refine ⟨f, rest, rfl, ?_⟩
    rw [facts_ok h]
    simp [assembled, hreach]
  · intro name e join selected filters p h
    refine ⟨kpi_grounded h, ?_⟩
    have hlinked := (kpi_grounded h).linked
    rw [kpi_ok h] at hlinked ⊢
    refine ⟨rfl, _, by simp only [assembled, List.append_assoc]; rfl, ?_⟩
    intro f hf
    by_cases hreach : (Frame.of join).reaches f.table = true
    · exact .inr ((hlinked f.table).mpr ((reaches_iff join f.table).mp hreach))
    · refine .inl (List.mem_append_left _ (List.mem_map_of_mem ?_))
      rw [List.mem_filter]
      exact ⟨hf, by simpa using hreach⟩

/-- Facts on two tables. -/
def salesFacts : List Fact :=
  [⟨1, 1, "Revenue", "orders", "amount", .sum⟩, ⟨2, 1, "Refunds", "returns", "cost", .sum⟩]

/-- The joins of the two tables through the dimension they share. -/
def salesJoin : JoinPlan :=
  ⟨"orders", [⟨"regions", "id", "orders", "region_id"⟩],
    [⟨"regions", "id", "orders", "region_id"⟩, ⟨"regions", "id", "returns", "region_id"⟩],
    [⟨⟨1, 1, "Region", "regions", "name"⟩, "regions", "name", [1, 2]⟩], [], []⟩

/-- The second table of facts is joined through the dimension. -/
theorem planned_wellScoped_sales :
    Join.resolve salesFacts [⟨1, 1, "Region", "regions", "name"⟩]
        [⟨none, 1, 1, "regions", "region_id", "id"⟩, ⟨none, 2, 1, "regions", "region_id", "id"⟩]
        (some []) = .ok salesJoin ∧
      (∃ p, facts salesFacts salesJoin [1] [⟨1, .str "EU"⟩] none = .ok p ∧
        p.tables = ["orders", "regions", "returns"] ∧ Grounded salesJoin p ∧
        ∃ f rest, salesFacts = f :: rest ∧
          p.statement.columns.head? = some (measureOf none f).item) ∧
      ∃ p, kpi "Net" ⟨"r - c", salesFacts⟩ salesJoin [1] [] = .ok p ∧
        Grounded salesJoin p := by
  have hresolve : Join.resolve salesFacts [⟨1, 1, "Region", "regions", "name"⟩]
      [⟨none, 1, 1, "regions", "region_id", "id"⟩, ⟨none, 2, 1, "regions", "region_id", "id"⟩]
      (some []) = .ok salesJoin := by rfl
  have hfacts := planned_wellScoped.1 salesFacts salesJoin [1] [⟨1, .str "EU"⟩] none _ rfl
  have hkpi := planned_wellScoped.2 "Net" ⟨"r - c", salesFacts⟩ salesJoin [1] [] _ rfl
  exact ⟨hresolve, ⟨_, rfl, rfl, hfacts.1, hfacts.2 _ _ _ hresolve⟩, _, rfl, hkpi.1⟩

end MetricLayer.Plan
