import MetricLayer.Proofs.Compile.Ignored
import MetricLayer.Proofs.Plan.Shape

/-!
# Values are bound and never written

Requests whose filters have values of the same shapes compile to the same text, or fail alike:
what a user supplies as a value reaches the database as the value of a parameter only.
-/
namespace MetricLayer.Compile
open Join Plan

/-- Two compiled requests differ at most in the values that their parameters are bound to. -/
structure SameText (vs vs' : List Value) (out out' : Compiled) : Prop where
  params : out.params = numbered vs
  rest : out' = { out with params := numbered vs' }

/-- Plans that differ in values have the same text. -/
lemma render_samePlan {settings : Setup} {p p' : QueryPlan} (h : SamePlan p p') (d : Dialect)
    {vs vs' : List Value} (hparams : p.params = numbered vs) (hparams' : p'.params = numbered vs') :
    Together (SameText vs vs') (render settings p d) (render settings p' d) := by
  have htext : p'.statement.render d = p.statement.render d := by
    rw [← Sql.Select.render_unbound, h.statement, Sql.Select.render_unbound]
  unfold render
  rw [htext]
  refine .bind_same fun sql _ => ?_
  refine .ok ⟨hparams, ?_⟩
  rw [h.rest, hparams']

section
variable {settings : Setup} {store : Store} {c : Connection} {m : MeasureQuery}
  {filters : List Filter}

/-- A query is drafted alike with other filters on the same dimensions. -/
lemma draft_sameDimensions
    (h : filters.map (·.dimensionId) = m.filters.map (·.dimensionId)) :
    Together (fun d d' => d' = { d with filters := filters }) (m.draft settings store c)
      ((m.withFilters filters).draft settings store c) := by
  have hload : loadDimensions store c.id m.selected filters =
      loadDimensions store c.id m.selected m.filters := by
    simp only [loadDimensions, dimensionIds, h]
  cases m with
  | facts q =>
    show Together _ (draftFacts store c q) (draftFacts store c { q with filters := filters })
    unfold draftFacts
    refine .bind_same fun dialect _ => .bind_same fun fs _ => .bind_same fun _ _ => ?_
    change loadDimensions store c.id q.dimensionIds filters = _ at hload
    dsimp only
    rw [hload]
    exact .bind_same fun ds _ => .ok rfl
  | kpi q =>
    show Together _ (draftKpi settings store c q)
      (draftKpi settings store c { q with filters := filters })
    unfold draftKpi
    refine .bind_same fun dialect _ => ?_
    dsimp only
    cases store.kpi? c.id q.kpiId with
    | none => exact .error _
    | some k =>
      refine .bind_same fun all _ => .bind_same fun e _ => ?_
      change loadDimensions store c.id q.dimensionIds filters = _ at hload
      rw [hload]
      exact .bind_same fun ds _ => .ok rfl

/-- Plans of one draft with filters that differ in values. -/
lemma plan_alike {d : Draft} (h : List.Forall₂ FiltersAlike d.filters filters)
    (columns : Option Columns) :
    Together (fun p p' => ∃ join, resolve d.facts d.dimensions d.mappings columns = .ok join ∧
        SameFiltered (Frame.of join) d.filters filters p p')
      (d.plan columns) ({ d with filters := filters }.plan columns) := by
  unfold Draft.plan
  refine .bind_same fun join hjoin => ?_
  dsimp only
  cases d.measured with
  | facts aggregation =>
    exact (assemble_alike h _ _ _ _).imp fun p p' hp => ⟨join, hjoin, hp⟩
  | kpi name e =>
    refine .bind (assemble_alike h _ _ _ _) fun p p' _ _ hp => .ok ⟨join, hjoin, ?_⟩
    refine ⟨⟨hp.plan.statement, ?_⟩, hp.params, hp.params'⟩
    rw [hp.plan.rest]

end

/-- Text does not depend on values. Queries whose filters have values of the same shapes, and
runs of reports whose stored and given values are of the same uses, fail alike or give the same
text; the parameters are bound, in order, to exactly the values of the filters that apply. -/
theorem values_bound (settings : Setup) :
    (∀ (store : Store) (c : Connection) (catalog : Option (String → List String))
      (m : MeasureQuery) (filters : List Filter), List.Forall₂ FiltersAlike m.filters filters →
      Together
        (fun out out' => ∃ d join, m.draft settings store c = .ok d ∧
          resolve d.facts d.dimensions d.mappings (d.known catalog) = .ok join ∧
          SameText (usedValues (Frame.of join) m.filters) (usedValues (Frame.of join) filters)
            out out')
        (m.compile settings store c catalog)
        ((m.withFilters filters).compile settings store c catalog)) ∧
    ∀ (r r' : Report) (dialect : String) (runtime runtime' : List (Value × Value)),
      ReportsAlike r r' → List.Forall₂ GivenAlike runtime runtime' →
      Together
        (fun out out' => ∃ given given', givenFilters r runtime = .ok given ∧
          givenFilters r' runtime' = .ok given' ∧
          SameText (reportValues r given) (reportValues r' given') out out')
        (report settings r dialect runtime) (report settings r' dialect runtime') := by
  constructor
  · intro store c catalog m filters h
    have hids : filters.map (·.dimensionId) = m.filters.map (·.dimensionId) := by
      refine List.forall₂_eq_eq_eq ▸ ?_
      rw [List.forall₂_map_left_iff, List.forall₂_map_right_iff]
      exact h.flip.imp fun f' f hf => hf.dimension
    rw [MeasureQuery.compile_eq, MeasureQuery.compile_eq]
    refine .bind (draft_sameDimensions hids) fun d d' hdraft _ hd => ?_
    subst hd
    rw [← (drafted_of_ok hdraft).filters] at h ⊢
    refine .bind (plan_alike h (d.known catalog)) fun p p' _ _ ⟨join, hjoin, hp⟩ => ?_
    exact (render_samePlan hp.plan d.dialect hp.params hp.params').imp
      fun out out' hout => ⟨d, join, hdraft, hjoin, hout⟩
  · intro r r' dialect runtime runtime' h hrun
    refine .bind_same fun d _ => .bind (report_alike h hrun) fun p p' _ _ hp => ?_
    obtain ⟨given, hgiven, hparams⟩ := hp.params
    obtain ⟨given', hgiven', hparams'⟩ := hp.params'
    exact (render_samePlan hp.plan d hparams hparams').imp
      fun out out' hout => ⟨given, given', hgiven, hgiven', hout⟩

/-- The orders of one tenant, and by default without drafts. -/
def tenantReport (tenant : Int) : Report :=
  { ordersReport with filters := [⟨"tenant", "=", .int tenant, false, 1⟩,
      ⟨"status", "not  in", .list [.str "draft"], true, 0⟩] }

lemma report_tenantReport :
    ∃ out, report { validateSql := false } (tenantReport 7) "postgres"
      [(.str "status", .str "open")] = .ok out := by
  have hsorted : sortedFilters (tenantReport 7) =
      [⟨"status", "not  in", .list [.str "draft"], true, 0⟩,
        ⟨"tenant", "=", .int 7, false, 1⟩] := by
    simp [sortedFilters, tenantReport, List.mergeSort]
  have hvisible : (tenantReport 7).visibleColumns = [] := visibleColumns_ordersReport
  unfold report Plan.report applicable
  rw [← sortedFilters, hsorted, hvisible]
  exact ⟨_, rfl⟩

/-- A value that looks like SQL changes nothing but a parameter, in a query and in a report. -/
theorem values_bound_quote :
    List.Forall₂ FiltersAlike [⟨1, .str "MAY"⟩, ⟨2, .list [.str "paid"]⟩]
        [⟨1, .str "' OR 1 = 1"⟩, ⟨2, .list [.null]⟩] ∧
      (∃ out, (revenue [⟨1, .str "MAY"⟩, ⟨2, .list [.str "paid"]⟩]).compile
            { validateSql := false } couponStore couponConnection none = .ok out ∧
        (revenue [⟨1, .str "' OR 1 = 1"⟩, ⟨2, .list [.null]⟩]).compile
            { validateSql := false } couponStore couponConnection none =
          .ok { out with params := [("p0", .str "' OR 1 = 1"), ("p1", .null)] }) ∧
      ReportsAlike (tenantReport 7) (tenantReport 8) ∧
      ∃ out params, report { validateSql := false } (tenantReport 7) "postgres"
            [(.str "status", .str "open")] = .ok out ∧
        report { validateSql := false } (tenantReport 8) "postgres"
            [(.str "status", .str "' OR 1 = 1")] = .ok { out with params := params } := by
  have hfilters : List.Forall₂ FiltersAlike [⟨1, .str "MAY"⟩, ⟨2, .list [.str "paid"]⟩]
      [⟨1, .str "' OR 1 = 1"⟩, ⟨2, .list [.null]⟩] :=
    .cons ⟨rfl, .scalar rfl rfl⟩ (.cons ⟨rfl, .list rfl⟩ .nil)
  have hreports : ReportsAlike (tenantReport 7) (tenantReport 8) :=
    ⟨rfl, .cons ⟨rfl, .scalar rfl rfl rfl rfl⟩ (.cons ⟨rfl, .list rfl⟩ .nil)⟩
  have hquery : ∃ out, (revenue [⟨1, .str "MAY"⟩, ⟨2, .list [.str "paid"]⟩]).compile
      { validateSql := false } couponStore couponConnection none = .ok out := ⟨_, rfl⟩
  refine ⟨hfilters, ?_, hreports, ?_⟩
  · obtain ⟨out, hout⟩ := hquery
    obtain ⟨out', hout', d, join, hdraft, hjoin, htext⟩ :=
      ((values_bound { validateSql := false }).1 couponStore couponConnection none
        (revenue [⟨1, .str "MAY"⟩, ⟨2, .list [.str "paid"]⟩]) _ hfilters).of_ok hout
    obtain rfl := Except.ok.inj hdraft
    obtain rfl := Except.ok.inj hjoin
    rw [htext.rest] at hout'
    exact ⟨out, hout, hout'⟩
  · obtain ⟨out, hout⟩ := report_tenantReport
    obtain ⟨out', hout', _, given', _, _, htext⟩ :=
      ((values_bound { validateSql := false }).2 (tenantReport 7) (tenantReport 8) "postgres"
        [(.str "status", .str "open")] [(.str "status", .str "' OR 1 = 1")] hreports
        (.cons ⟨rfl, .scalar rfl rfl rfl rfl⟩ .nil)).of_ok hout
    rw [htext.rest] at hout'
    exact ⟨out, _, hout, hout'⟩

end MetricLayer.Compile
