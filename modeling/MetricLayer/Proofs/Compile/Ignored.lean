import MetricLayer.Proofs.Compile.Query
import MetricLayer.Proofs.Plan.Agree

/-!
# Filters that name no value

A filter with an empty list adds no condition. But its dimension is loaded and joined before the
filter is looked at, and an inner join leaves rows out. So such a filter has no effect if its
dimension is asked for before it, or is joined over no edge; otherwise its join stays.
-/
namespace MetricLayer.Compile
open Join Plan

/-! ### Dimensions of a query without one of its filters -/

/-- A dimension that is named before counts where it is named first. -/
lemma dimensionIds_of_named {selected : List Int} {before after : List Filter} {flt : Filter}
    (h : flt.dimensionId ∈ selected ++ before.map (·.dimensionId)) :
    dimensionIds selected (before ++ flt :: after) = dimensionIds selected (before ++ after) := by
  simp only [dimensionIds, List.map_append, List.map_cons, ← List.append_assoc]
  exact eraseDups_append_cons h

lemma filter_dimensionIds (selected : List Int) (before after : List Filter) (flt : Filter) :
    (dimensionIds selected (before ++ flt :: after)).filter (· != flt.dimensionId) =
      (dimensionIds selected (before ++ after)).filter (· != flt.dimensionId) := by
  simp only [dimensionIds, filter_eraseDups]
  simp

lemma Loaded.filter {store : Store} {connectionId : Int} {selected : List Int}
    {filters : List Filter} {ds : List Dimension}
    (h : Loaded store connectionId selected filters ds) (p : Int → Bool) :
    ds.filter (fun x => p x.id) =
      ((dimensionIds selected filters).filter p).filterMap (store.dimension? connectionId) := by
  rw [h.records, List.filter_filterMap, List.filterMap_filter]
  refine List.filterMap_congr fun id _ => ?_
  cases hx : store.dimension? connectionId id with
  | none => cases p id <;> rfl
  | some x =>
    obtain rfl := Store.id_of_dimension? hx
    cases hp : p x.id <;> simp [hp]

/-- Dimensions without links do not count. -/
lemma flatMap_of_unlinked {links : Dimension → List JoinEdge} {ds : List Dimension} {id : Int}
    (h : ∀ x ∈ ds, x.id = id → links x = []) :
    ds.flatMap links = (ds.filter fun x => x.id != id).flatMap links := by
  induction ds with
  | nil => rfl
  | cons x ds ih =>
    simp only [List.mem_cons, forall_eq_or_imp] at h
    by_cases hid : x.id = id
    · simp [hid, h.1 hid, ih h.2]
    · simp [hid, ih h.2]

/-! ### Drafts of a query without one of its filters -/

section
variable {store : Store} {c : Connection} {m m' : MeasureQuery} {d d' : Draft}
  {catalog : Option (String → List String)} {join join' : JoinPlan}

/-- A dimension that two drafts of the same facts have in common is resolved alike. -/
lemma pair_drafted (h : Drafted store c m d) (h' : Drafted store c m' d')
    (hfacts : d'.facts = d.facts) {f : Fact} (hf : f ∈ d.facts) {x : Dimension}
    (hx : x ∈ d.dimensions) (hx' : x ∈ d'.dimensions) :
    pair d'.mappings ((d'.known catalog).getD []) f x =
      pair d.mappings ((d.known catalog).getD []) f x := by
  have hf' : f ∈ d'.facts := hfacts ▸ hf
  refine Draft.pair_congr hf hf' hx hx' ?_ catalog
  rw [h.mappings, h'.mappings,
    Store.mappingOf_mappingsOf _ (List.mem_map_of_mem hf) (List.mem_map_of_mem hx),
    Store.mappingOf_mappingsOf _ (List.mem_map_of_mem hf') (List.mem_map_of_mem hx')]

lemma linksOf_drafted (h : Drafted store c m d) (h' : Drafted store c m' d')
    (hfacts : d'.facts = d.facts) {x : Dimension} (hx : x ∈ d.dimensions)
    (hx' : x ∈ d'.dimensions) :
    linksOf d'.facts d'.mappings ((d'.known catalog).getD []) x =
      linksOf d.facts d.mappings ((d.known catalog).getD []) x := by
  rw [linksOf, linksOf, hfacts]
  exact List.filterMap_congr fun f hf => by rw [pair_drafted h h' hfacts hf hx hx']

lemma resolution_drafted (h : Drafted store c m d) (h' : Drafted store c m' d')
    (hfacts : d'.facts = d.facts) {x : Dimension} (hx : x ∈ d.dimensions)
    (hx' : x ∈ d'.dimensions) :
    resolution d'.facts d'.mappings ((d'.known catalog).getD []) x =
      resolution d.facts d.mappings ((d.known catalog).getD []) x := by
  rw [resolution, resolution, hfacts]
  exact congrArg _ (List.map_congr_left fun f hf => by
    rw [pair_drafted h h' hfacts hf hx hx'])

/-- Drafts of the same facts agree on the dimensions that they have in common, if the others
have no links. -/
lemma agreeOn_drafted (h : Drafted store c m d) (h' : Drafted store c m' d')
    (hfacts : d'.facts = d.facts) (hsub : d'.dimensions ⊆ d.dimensions)
    (hlinks : d'.dimensions.flatMap (linksOf d.facts d.mappings ((d.known catalog).getD [])) =
      d.dimensions.flatMap (linksOf d.facts d.mappings ((d.known catalog).getD [])))
    (hjoin : resolve d.facts d.dimensions d.mappings (d.known catalog) = .ok join)
    (hjoin' : resolve d'.facts d'.dimensions d'.mappings (d'.known catalog) = .ok join') :
    AgreeOn (dimensionIds m'.selected m'.filters) join join' := by
  have hbase : join'.base = join.base := by
    have hhead := base_eq hjoin'
    rw [hfacts, base_eq hjoin] at hhead
    exact (Option.some.inj hhead).symm
  have hall : join'.links = join.links := by
    rw [(links_eq hjoin).1, (links_eq hjoin').1, ← hlinks]
    exact List.flatMap_congr fun x hx => linksOf_drafted h h' hfacts (hsub hx) hx
  refine ⟨hbase, ?_, hall, ?_, ?_, ?_⟩
  · rw [(links_eq hjoin).2, (links_eq hjoin').2, hall]
  · intro r hr
    rw [mem_dimensions_iff hjoin, mem_dimensions_iff hjoin']
    constructor
    · rintro ⟨x, hx, hres⟩
      rw [resolution_drafted h h' hfacts (hsub hx) hx] at hres
      exact ⟨x, hsub hx, hres⟩
    · rintro ⟨x, hx, hres⟩
      rw [dimension_of_resolved? hres] at hr
      have hx' : x ∈ d'.dimensions := h'.dimensions.mem_iff.mpr ⟨hr, (h.dimensions.mem_iff.mp hx).2⟩
      rw [← resolution_drafted h h' hfacts hx hx'] at hres
      exact ⟨x, hx', hres⟩
  · refine dimension_ids_nodup hjoin ?_
    rw [h.dimensions.ids]
    exact dimensionIds_nodup _ _
  · refine dimension_ids_nodup hjoin' ?_
    rw [h'.dimensions.ids]
    exact dimensionIds_nodup _ _

end

/-- A rendered query only takes over the warnings of its plan. -/
lemma render_withWarnings {settings : Setup} {p : QueryPlan} {d : Dialect} {out : Compiled}
    (h : render settings p d = .ok out) (ws : List String) :
    ∃ ws', render settings { p with warnings := ws } d = .ok { out with warnings := ws' } := by
  obtain ⟨sql, hsql, h⟩ := bind_eq_ok h
  obtain rfl := Except.ok.inj h
  refine ⟨ws ++ (if settings.validateSql then Sql.problems settings.parser sql d.name else []).map
    ("SQL validation: " ++ ·), ?_⟩
  unfold render
  simp only [hsql]
  rfl

/-- The dimension of a filter is asked for before the filter, or no fact is joined to it over an
edge. -/
inductive Inert (catalog : Option (String → List String)) (d : Draft) (before : List Filter)
    (flt : Filter) : Prop
  | named (h : flt.dimensionId ∈ d.selected ++ before.map (·.dimensionId))
  | unlinked (h : ∀ f ∈ d.facts, ∀ x ∈ d.dimensions, x.id = flt.dimensionId →
      (pair d.mappings ((d.known catalog).getD []) f x).edge? = none)

lemma agreeOn_without {store : Store} {c : Connection} {m m' : MeasureQuery} {d d' : Draft}
    {catalog : Option (String → List String)} {join join' : JoinPlan} {before after : List Filter}
    {flt : Filter} (h : Drafted store c m d) (h' : Drafted store c m' d')
    (hfacts : d'.facts = d.facts) (hfilters : m.filters = before ++ flt :: after)
    (hfilters' : m'.filters = before ++ after) (hselected : m'.selected = m.selected)
    (hinert : Inert catalog d before flt)
    (hjoin : resolve d.facts d.dimensions d.mappings (d.known catalog) = .ok join)
    (hjoin' : resolve d'.facts d'.dimensions d'.mappings (d'.known catalog) = .ok join') :
    AgreeOn (dimensionIds m'.selected m'.filters) join join' := by
  have hds := h.dimensions
  have hds' := h'.dimensions
  rw [hfilters] at hds
  rw [hfilters', hselected] at hds'
  have hsub : d'.dimensions ⊆ d.dimensions := by
    intro x hx
    obtain ⟨hid, hrecord⟩ := hds'.mem_iff.mp hx
    refine hds.mem_iff.mpr ⟨?_, hrecord⟩
    simp only [dimensionIds, List.mem_eraseDups, List.map_append, List.map_cons, List.mem_append,
      List.mem_cons] at hid ⊢
    tauto
  refine agreeOn_drafted h h' hfacts hsub ?_ hjoin hjoin'
  cases hinert with
  | named hnamed =>
    rw [h.selected] at hnamed
    rw [hds.records, hds'.records, dimensionIds_of_named hnamed]
  | unlinked hedges =>
    have hnone : ∀ x ∈ d.dimensions, x.id = flt.dimensionId →
        linksOf d.facts d.mappings ((d.known catalog).getD []) x = [] := fun x hx hid =>
      List.filterMap_eq_nil_iff.mpr fun f hf => hedges f hf x hx hid
    rw [flatMap_of_unlinked hnone, flatMap_of_unlinked fun x hx => hnone x (hsub hx),
      hds.filter (· != flt.dimensionId), hds'.filter (· != flt.dimensionId), filter_dimensionIds]

/-- Planned without the filter, a draft gives the same plan up to its warnings. -/
lemma plan_without {store : Store} {c : Connection} {m m' : MeasureQuery} {d d' : Draft}
    {catalog : Option (String → List String)} {before after : List Filter} {flt : Filter}
    (h : Drafted store c m d) (h' : Drafted store c m' d') (hfacts : d'.facts = d.facts)
    (hmeasured : d'.measured = d.measured) (hselected : m'.selected = m.selected)
    (hfilters : m.filters = before ++ flt :: after) (hfilters' : m'.filters = before ++ after)
    (hvalue : isEmptyList flt.value = true) (hinert : Inert catalog d before flt)
    {p : QueryPlan} (hplan : d.plan (d.known catalog) = .ok p) :
    ∃ ws, d'.plan (d'.known catalog) = .ok { p with warnings := ws } := by
  obtain ⟨join, hjoin, hplan⟩ := bind_eq_ok hplan
  have hne : d'.facts ≠ [] := by
    obtain ⟨f, rest, _, hfs, _⟩ := resolve_ok hjoin
    simp [hfacts, hfs]
  obtain ⟨join', hjoin'⟩ := exists_resolve hne d'.dimensions d'.mappings (d'.known catalog)
  have hagree := agreeOn_without h h' hfacts hfilters hfilters' hselected hinert hjoin hjoin'
  have hsel : m.selected ⊆ dimensionIds m'.selected m'.filters := by
    intro id hid
    rw [hselected, dimensionIds, List.mem_eraseDups]
    exact List.mem_append_left _ hid
  have hnamed : ∀ f ∈ before ++ after, f.dimensionId ∈ dimensionIds m'.selected m'.filters := by
    intro f hf
    rw [hfilters', dimensionIds, List.mem_eraseDups]
    exact List.mem_append_right _ (List.mem_map_of_mem hf)
  have happlied : applied (Frame.of join') (before ++ after) =
      applied (Frame.of join) (before ++ flt :: after) := by
    rw [hagree.applied hnamed, applied_emptyList hvalue]
  rw [h.selected, h.filters, hfilters] at hplan
  unfold Draft.plan
  rw [hjoin', hmeasured, h'.selected, h'.filters, hselected, hfilters', hfacts]
  cases hd : d.measured with
  | facts aggregation =>
    rw [hd] at hplan
    exact hagree.facts hsel happlied hplan
  | kpi name e =>
    rw [hd] at hplan
    exact hagree.kpi hsel happlied hplan

/-- Without a filter that names no value, a query that compiles still compiles, and only its
warnings may differ, if the dimension of the filter is asked for before or is joined over no
edge. -/
theorem emptyList_inert (settings : Setup) (store : Store) (c : Connection)
    (catalog : Option (String → List String)) (m : MeasureQuery) (before after : List Filter)
    (flt : Filter) (out : Compiled) (hfilters : m.filters = before ++ flt :: after)
    (hvalue : isEmptyList flt.value = true)
    (hinert : ∀ d, m.draft settings store c = .ok d → Inert catalog d before flt)
    (hout : m.compile settings store c catalog = .ok out) :
    ∃ ws, (m.withFilters (before ++ after)).compile settings store c catalog =
      .ok { out with warnings := ws } := by
  have hdrafted : ∃ d, m.draft settings store c = .ok d := by
    rw [MeasureQuery.compile_eq] at hout
    obtain ⟨d, hdraft, _⟩ := bind_eq_ok hout
    exact ⟨d, hdraft⟩
  obtain ⟨d, hdraft⟩ := hdrafted
  have h := drafted_of_ok hdraft
  have hds := h.dimensions
  rw [hfilters] at hds
  have hsub : before ++ after ⊆ before ++ flt :: after := by simp
  have hdraft' := draft_withFilters hdraft (hds.subset hsub)
  have hselected : (m.withFilters (before ++ after)).selected = m.selected := by cases m <;> rfl
  have hfilters' : (m.withFilters (before ++ after)).filters = before ++ after := by
    cases m <;> rfl
  rw [MeasureQuery.compile_of_draft hdraft] at hout
  rw [MeasureQuery.compile_of_draft hdraft']
  obtain ⟨p, hplan, hrender⟩ := bind_eq_ok hout
  obtain ⟨ws, hplan'⟩ := plan_without h (drafted_of_ok hdraft') rfl rfl hselected hfilters
    hfilters' hvalue (hinert d hdraft) hplan
  rw [hplan']
  exact render_withWarnings hrender ws

/-- Orders have a status of their own, and are mapped to the coupons they were paid with. -/
def couponStore : Store := .memory {
  facts := [⟨1, 1, "Revenue", "orders", "amount", .sum⟩]
  dimensions := [⟨1, 1, "Coupon", "coupons", "code"⟩, ⟨2, 1, "Status", "orders", "status"⟩]
  mappings := [⟨some 1, 1, 1, "coupons", "coupon_id", "id"⟩] }

def couponConnection : Connection := ⟨1, none, "shop", "postgres", "db", 5432, "shop", "u", "p",
  none, none, none⟩

/-- Revenue under filters. -/
def revenue (filters : List Filter) : MeasureQuery := .facts ⟨[1], [], none, filters⟩

/-- No join is needed for the status of an order. -/
theorem emptyList_inert_status :
    ∃ out, (revenue [⟨1, .str "MAY"⟩, ⟨2, .list []⟩]).compile { validateSql := false } couponStore
        couponConnection none = .ok out ∧
      ∃ ws, (revenue [⟨1, .str "MAY"⟩]).compile { validateSql := false } couponStore
        couponConnection none = .ok { out with warnings := ws } := by
  refine ⟨_, rfl, ?_⟩
  refine emptyList_inert { validateSql := false } couponStore couponConnection none
    (revenue [⟨1, .str "MAY"⟩, ⟨2, .list []⟩]) [⟨1, .str "MAY"⟩] [] ⟨2, .list []⟩ _ rfl rfl ?_ rfl
  intro d hd
  obtain rfl := Except.ok.inj hd
  exact .unlinked (by decide)

/-- Only orders with a coupon are counted if a filter on coupons names no value. -/
theorem emptyList_joins :
    ∃ out out', (revenue [⟨1, .list []⟩]).compile { validateSql := false } couponStore
        couponConnection none = .ok out ∧
      (revenue []).compile { validateSql := false } couponStore couponConnection none = .ok out' ∧
      out.warnings = ["Filter on dimension 'Coupon' ignored: empty value list"] ∧
      out.sql = "SELECT SUM(\"orders\".\"amount\") AS \"Revenue\"\nFROM \"orders\"\n" ++
        "INNER JOIN \"coupons\" ON (\"coupons\".\"id\" = \"orders\".\"coupon_id\")" ∧
      out'.sql = "SELECT SUM(\"orders\".\"amount\") AS \"Revenue\"\nFROM \"orders\"" ∧
      out.resolved.tables = ["orders", "coupons"] ∧ out'.resolved.tables = ["orders"] :=
  ⟨_, _, rfl, rfl, by decide +kernel, by decide +kernel, by decide +kernel, rfl, rfl⟩

end MetricLayer.Compile
