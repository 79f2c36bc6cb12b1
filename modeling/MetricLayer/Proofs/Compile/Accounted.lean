import MetricLayer.Proofs.Compile.Draft
import MetricLayer.Proofs.Plan.Kept
import MetricLayer.Proofs.Sql.Spelling

/-!
# Nothing that is asked for is lost

A query for facts fails for want of dimensions exactly if none of the selected ones is kept, and
then names them all. Otherwise every fact, dimension and filter of the query is either part of
the statement or named in a warning.
-/
namespace MetricLayer.Compile
open Join Plan

/-! ### Stages of a query for facts -/

lemma facts_ne_nil {store : Store} {c : Connection} {q : FactQuery} {d : Draft}
    (h : DraftsFacts store c q d) (hfacts : q.factIds ≠ []) : d.facts ≠ [] := by
  have hids := h.factIds
  intro hfs
  cases hq : q.factIds with
  | nil => exact hfacts hq
  | cons id ids => simp [hfs, hq, List.eraseDups_cons] at hids

/-- Once its facts and dimensions are resolved, a query is planned and then rendered. -/
lemma facts_eq_of_draft {settings : Setup} {store : Store} {c : Connection} {q : FactQuery}
    {catalog : Option (String → List String)} {d : Draft} {join : JoinPlan}
    (h : DraftsFacts store c q d)
    (hjoin : resolve d.facts d.dimensions d.mappings (d.known catalog) = .ok join) :
    facts settings store c q catalog =
      Plan.facts d.facts join q.dimensionIds q.filters q.aggregation >>= fun p =>
        render settings p d.dialect := by
  have hplan : d.plan (d.known catalog) =
      Plan.facts d.facts join q.dimensionIds q.filters q.aggregation := by
    unfold Draft.plan
    rw [hjoin, h.measured, h.selected, h.filters]
    rfl
  unfold facts
  rw [draftFacts_ok_iff.mpr h, ← hplan]
  rfl

/-- A planned query fails later only if its statement has no text. -/
lemma render_fault {settings : Setup} {p : QueryPlan} {d : Dialect} {x : Fault}
    (h : render settings p d = .error x) : Sql.Unwritable d x :=
  Sql.Select.render_error (map_eq_error h)

/-- What a rendered query takes over from its plan. -/
lemma render_ok {settings : Setup} {p : QueryPlan} {d : Dialect} {out : Compiled}
    (h : render settings p d = .ok out) :
    p.statement.render d = .ok out.sql ∧ out.params = p.params ∧
      out.resolved = ⟨p.base, p.tables, p.dimensions, p.measures⟩ ∧
      ∃ problems, out.warnings = p.warnings ++ problems := by
  obtain ⟨sql, hsql, h⟩ := bind_eq_ok h
  obtain rfl := Except.ok.inj h
  exact ⟨hsql, rfl, rfl, _, rfl⟩

/-- A query fails for want of dimensions exactly if some are selected and none of them is kept;
the failure then names those that are lost. -/
lemma noResolvable_iff {settings : Setup} {store : Store} {c : Connection} {q : FactQuery}
    {catalog : Option (String → List String)} {d : Draft} {join : JoinPlan}
    (h : DraftsFacts store c q d)
    (hjoin : resolve d.facts d.dimensions d.mappings (d.known catalog) = .ok join)
    {names : List String} :
    (∃ ws, facts settings store c q catalog =
        .error (.failure (.noResolvableDimensions names ws))) ↔
      q.dimensionIds ≠ [] ∧ (Frame.of join).chosen q.dimensionIds = [] ∧
        names = (Frame.of join).lostNames q.dimensionIds := by
  rw [facts_eq_of_draft h hjoin, facts_eq]
  constructor
  · rintro ⟨ws, herror⟩
    split at herror
    · rename_i hlost
      simp only [Bool.and_eq_true, Bool.not_eq_true', List.isEmpty_eq_false_iff,
        List.isEmpty_iff] at hlost
      have hnames := Except.error.inj herror
      simp only [Fault.failure.injEq, Failure.noResolvableDimensions.injEq] at hnames
      exact ⟨hlost.1, hlost.2, hnames.1.symm⟩
    · cases render_fault herror
  · rintro ⟨hselected, hchosen, rfl⟩
    have hempty : q.dimensionIds.isEmpty = false := List.isEmpty_eq_false_iff.mpr hselected
    simp only [hempty, hchosen]
    exact ⟨_, rfl⟩

/-! ### Accounts -/

/-- What a compiled query does with all that is asked for. -/
structure Accounts (q : FactQuery) (d : Draft) (join : JoinPlan) (s : Sql.Select)
    (out : Compiled) : Prop where
  text : s.render d.dialect = .ok out.sql
  /-- The facts on tables linked to the base table are measured. -/
  measures : out.resolved.measures = (linkedFacts join d.facts).map (·.name)
  /-- Besides them, only columns of selected dimensions are selected. -/
  columns : ∃ shown, s.columns =
      (linkedFacts join d.facts).map (fun f => (measureOf q.aggregation f).item) ++ shown ∧
    ∀ e ∈ shown, ∃ r ∈ join.dimensions, r.dimension.id ∈ q.dimensionIds ∧
      ∃ label, e = .aliased (columnOf r) label
  /-- The other facts have a warning each. -/
  facts : ∀ f ∈ d.facts, ¬ Linked (join.edges ++ join.links) join.base f.table →
    factWarning join.base f ∈ out.warnings
  /-- A selected dimension is shown, or a warning tells why not. -/
  dimensions : ∀ x ∈ d.dimensions, x.id ∈ q.dimensionIds →
    droppedWarning x ∈ out.warnings ∨ ∃ r ∈ join.dimensions, r.dimension = x ∧
      (Shows s (columnOf r) ∨ unreachableWarning join.base r ∈ out.warnings)
  /-- A filter is one of the conditions, or a warning tells why not. -/
  filters : ∃ es before ws after, s.condition = conjunction es ∧
    out.warnings = before ++ ws ++ after ∧
    Settled
      (fun f e => ∃ r ∈ join.dimensions, r.dimension.id = f.dimensionId ∧
        TestsFilter (columnOf r) f e)
      (fun f w => w = notJoinableWarning f ∨
        ∃ r ∈ join.dimensions, r.dimension.id = f.dimensionId ∧ w = emptyListWarning r)
      q.filters es ws

lemma accounts_of_plan {settings : Setup} {q : FactQuery} {columns : Option Columns}
    {d : Draft} {join : JoinPlan} {p : QueryPlan} {out : Compiled}
    (hjoin : resolve d.facts d.dimensions d.mappings columns = .ok join)
    (hnodup : (join.dimensions.map (·.dimension.id)).Nodup)
    (hplan : Plan.facts d.facts join q.dimensionIds q.filters q.aggregation = .ok p)
    (hout : render settings p d.dialect = .ok out) : Accounts q d join p.statement out := by
  obtain ⟨htext, _, hresolved, problems, hwarnings⟩ := render_ok hout
  refine ⟨htext, ?_, columns_of_facts hplan hnodup, ?_, ?_, ?_⟩
  · rw [hresolved]
    exact measures_of_facts hplan
  · intro f hf hnot
    rw [hwarnings]
    exact List.mem_append_left _ (factWarning_mem hplan hf hnot)
  · intro x hx hid
    rw [hwarnings]
    by_cases hlost : x ∈ join.dropped
    · have hwarned := warnings_of_join hplan (droppedWarning_mem hjoin hlost)
      exact .inl (List.mem_append_left _ hwarned)
    · have hresolves : x ∈ join.dimensions.map (·.dimension) := by
        rw [dropped_eq hjoin] at hlost
        rw [dimensions_eq hjoin]
        simpa [hx] using hlost
      obtain ⟨r, hr, rfl⟩ := List.mem_map.mp hresolves
      exact .inr ⟨r, hr, rfl, (shown_or_warned hplan hnodup hr hid).imp_right
        (List.mem_append_left _)⟩
  · obtain ⟨es, before, ws, hcondition, hsplit, hsettled⟩ := settled_of_facts hplan hnodup
    exact ⟨es, before, ws, problems, hcondition, by rw [hwarnings, hsplit], hsettled⟩

/-- Nothing that a query for facts asks for is lost without a trace: either the query fails
because none of the selected dimensions is read from a linked table, and all of them are
named, or all that it asks for is accounted for. -/
theorem facts_accounted (settings : Setup) (store : Store) (c : Connection) (q : FactQuery)
    (catalog : Option (String → List String)) (d : Draft)
    (hdraft : draftFacts store c q = .ok d) (hfacts : q.factIds ≠ []) :
    d.facts.map (·.id) = q.factIds.eraseDups ∧
    d.dimensions.map (·.id) = dimensionIds q.dimensionIds q.filters ∧
    ∃ join, resolve d.facts d.dimensions d.mappings (d.known catalog) = .ok join ∧
      ((∃ names ws, facts settings store c q catalog =
          .error (.failure (.noResolvableDimensions names ws))) ↔
        q.dimensionIds ≠ [] ∧ ∀ r ∈ join.dimensions, r.dimension.id ∈ q.dimensionIds →
          ¬ Linked (join.edges ++ join.links) join.base r.table) ∧
      (∀ names ws, facts settings store c q catalog =
          .error (.failure (.noResolvableDimensions names ws)) →
        names.Perm ((d.dimensions.filter fun x => q.dimensionIds.contains x.id).map (·.name))) ∧
      ∀ out, facts settings store c q catalog = .ok out → ∃ s, Accounts q d join s out := by
  have h := draftFacts_ok_iff.mp hdraft
  obtain ⟨join, hjoin⟩ := exists_resolve (facts_ne_nil h hfacts) d.dimensions d.mappings
    (d.known catalog)
  have hnodup : (join.dimensions.map (·.dimension.id)).Nodup :=
    dimension_ids_nodup hjoin (by
      rw [h.dimensions.ids]
      exact dimensionIds_nodup _ _)
  refine ⟨h.factIds, h.dimensions.ids, join, hjoin, ?_, ?_, ?_⟩
  · rw [← chosen_eq_nil_iff hnodup]
    constructor
    · rintro ⟨names, hfailed⟩
      obtain ⟨hselected, hchosen, _⟩ := (noResolvable_iff h hjoin).mp hfailed
      exact ⟨hselected, hchosen⟩
    · rintro ⟨hselected, hchosen⟩
      exact ⟨_, (noResolvable_iff h hjoin).mpr ⟨hselected, hchosen, rfl⟩⟩
  · intro names ws hfailed
    obtain ⟨_, _, rfl⟩ := (noResolvable_iff h hjoin).mp ⟨ws, hfailed⟩
    exact lostNames_perm hjoin q.dimensionIds
  · intro out hout
    rw [facts_eq_of_draft h hjoin] at hout
    obtain ⟨p, hplan, hout⟩ := bind_eq_ok hout
    exact ⟨_, accounts_of_plan hjoin hnodup hplan hout⟩

/-- Orders are mapped to regions; campaigns and visits are joined to nothing. -/
def tradeStore : Store := .memory {
  facts := [⟨1, 1, "Revenue", "orders", "amount", .sum⟩, ⟨2, 1, "Visits", "visits", "id", .count⟩]
  dimensions := [⟨1, 1, "Region", "regions", "name"⟩, ⟨2, 1, "Campaign", "ads", "title"⟩]
  mappings := [⟨some 1, 1, 1, "regions", "region_id", "id"⟩] }

def tradeConnection : Connection := ⟨1, none, "trade", "postgres", "db", 5432, "trade", "u", "p",
  none, none, none⟩

/-- A query in which one fact, one dimension and one filter are left out. -/
def tradeQuery : FactQuery := ⟨[1, 2, 1], [2, 1], none, [⟨1, .str "EU"⟩, ⟨2, .str "Spring"⟩]⟩

theorem facts_accounted_trade :
    ∃ d, draftFacts tradeStore tradeConnection tradeQuery = .ok d ∧
      tradeQuery.factIds ≠ [] ∧
      ∃ out, facts { validateSql := false } tradeStore tradeConnection tradeQuery none = .ok out ∧
        out.resolved.measures = ["Revenue"] ∧
        ∃ join s, Accounts tradeQuery d join s out := by
  refine ⟨_, rfl, by decide, _, rfl, by rfl, ?_⟩
  obtain ⟨_, _, join, _, _, _, haccounts⟩ := facts_accounted { validateSql := false } tradeStore
    tradeConnection tradeQuery none _ rfl (by decide)
  exact ⟨join, haccounts _ rfl⟩

end MetricLayer.Compile
