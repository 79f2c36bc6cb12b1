import MetricLayer.Proofs.Compile.Draft
import MetricLayer.Proofs.Plan.Expansion
import MetricLayer.Proofs.Store.Mappings

/-!
# Queries of both kinds

A query measures facts or a derived metric. Both kinds are drafted from the records of the
store and completed in the same way, so what is said of drafts holds for both.
-/
namespace MetricLayer

/-- A query for measures. -/
inductive MeasureQuery where
  | facts (q : FactQuery)
  | kpi (q : KpiQuery)

namespace MeasureQuery

/-- The dimensions that a query selects. -/
def selected : MeasureQuery → List Int
  | facts q => q.dimensionIds
  | kpi q => q.dimensionIds

def filters : MeasureQuery → List Filter
  | facts q => q.filters
  | kpi q => q.filters

/-- A query with other filters. -/
def withFilters : MeasureQuery → List Filter → MeasureQuery
  | facts q, fs => facts { q with filters := fs }
  | kpi q, fs => kpi { q with filters := fs }

def draft (settings : Setup) (store : Store) (c : Connection) :
    MeasureQuery → Except Fault Draft
  | facts q => Compile.draftFacts store c q
  | kpi q => Compile.draftKpi settings store c q

def compile (settings : Setup) (store : Store) (c : Connection)
    (catalog : Option (String → List String)) : MeasureQuery → Except Fault Compiled
  | facts q => Compile.facts settings store c q catalog
  | kpi q => Compile.kpi settings store c q catalog

lemma compile_eq (settings : Setup) (store : Store) (c : Connection)
    (catalog : Option (String → List String)) (m : MeasureQuery) :
    m.compile settings store c catalog =
      m.draft settings store c >>= fun d => d.completeWith settings catalog := by
  cases m <;> rfl

/-- The tables whose columns a query looks up: those that its draft needs, if it has one. -/
def lookups (settings : Setup) (store : Store) (c : Connection) (m : MeasureQuery) :
    List String :=
  match m.draft settings store c with
  | .ok d => d.needed
  | .error _ => []

/-- A query with a draft is planned and then rendered. -/
lemma compile_of_draft {settings : Setup} {store : Store} {c : Connection}
    {m : MeasureQuery} {d : Draft} (h : m.draft settings store c = .ok d)
    (catalog : Option (String → List String)) :
    m.compile settings store c catalog =
      d.plan (d.known catalog) >>= fun p => Compile.render settings p d.dialect := by
  rw [compile_eq, h]
  rfl

end MeasureQuery

/-- What a draft holds, whatever is measured. -/
structure Drafted (store : Store) (c : Connection) (m : MeasureQuery) (d : Draft) : Prop where
  facts : ∀ all, store.factsOn c.id = .ok all → d.facts ⊆ all
  dimensions : Compile.Loaded store c.id m.selected m.filters d.dimensions
  mappings : d.mappings =
    store.mappingsOf (d.facts.map (·.id)) (some (d.dimensions.map (·.id)))
  selected : d.selected = m.selected
  filters : d.filters = m.filters

namespace Compile

/-- The stages of a draft of a derived metric. -/
lemma draftKpi_ok {settings : Setup} {store : Store} {c : Connection} {q : KpiQuery}
    {d : Draft} (h : draftKpi settings store c q = .ok d) :
    ∃ k all e, Dialect.ofName c.dialect = .ok d.dialect ∧ store.kpi? c.id q.kpiId = some k ∧
      store.factsOn c.id = .ok all ∧
      Kpi.expand d.dialect settings.sumOnly k.expression all = .ok e ∧
      Loaded store c.id q.dimensionIds q.filters d.dimensions ∧
      d = ⟨d.dialect, e.facts, d.dimensions, store.mappingsOf (e.facts.map (·.id))
        (some (d.dimensions.map (·.id))), .kpi k.name e, q.dimensionIds, q.filters⟩ := by
  obtain ⟨dialect, hdialect, h⟩ := bind_eq_ok h
  cases hk : store.kpi? c.id q.kpiId with
  | none =>
    rw [hk] at h
    cases h
  | some k =>
    rw [hk] at h
    obtain ⟨all, hall, h⟩ := bind_eq_ok h
    obtain ⟨e, he, h⟩ := bind_eq_ok h
    obtain ⟨ds, hds, h⟩ := bind_eq_ok h
    obtain rfl := Except.ok.inj h
    exact ⟨k, all, e, hdialect, rfl, hall, he, loadDimensions_ok_iff.mp hds, rfl⟩

end Compile

open Compile

/-- What is known of every draft. -/
theorem drafted_of_ok {settings : Setup} {store : Store} {c : Connection} {m : MeasureQuery}
    {d : Draft} (h : m.draft settings store c = .ok d) : Drafted store c m d := by
  cases m with
  | facts q =>
    obtain ⟨_, hfs, hids, hds, hmappings, _, hselected, hfilters⟩ := draftFacts_ok_iff.mp h
    rw [← hids] at hmappings
    exact ⟨fun all hall => Store.factsOf_subset hfs hall, hds, hmappings, hselected, hfilters⟩
  | kpi q =>
    obtain ⟨k, all, e, _, _, hall, he, hds, hd⟩ := draftKpi_ok h
    rw [hd]
    refine ⟨?_, hds, rfl, rfl, rfl⟩
    intro all' hall'
    obtain rfl := Except.ok.inj (hall.symm.trans hall')
    exact Kpi.mem_expand he

/-- With other filters, the same query has the same draft up to its dimensions. -/
theorem draft_withFilters {settings : Setup} {store : Store} {c : Connection}
    {m : MeasureQuery} {d : Draft} (h : m.draft settings store c = .ok d) {filters : List Filter}
    {ds : List Dimension} (hds : Loaded store c.id m.selected filters ds) :
    (m.withFilters filters).draft settings store c = .ok { d with
      dimensions := ds
      mappings := store.mappingsOf (d.facts.map (·.id)) (some (ds.map (·.id)))
      filters := filters } := by
  cases m with
  | facts q =>
    obtain ⟨hdialect, hfs, hids, _, _, hmeasured, hselected, _⟩ := draftFacts_ok_iff.mp h
    exact draftFacts_ok_iff.mpr
      ⟨hdialect, hfs, hids, hds, by rw [hids], hmeasured, hselected, rfl⟩
  | kpi q =>
    obtain ⟨k, all, e, hdialect, hk, hall, he, _, hd⟩ := draftKpi_ok h
    have hload : loadDimensions store c.id q.dimensionIds filters = .ok ds :=
      loadDimensions_ok_iff.mpr hds
    rw [hd]
    show draftKpi settings store c { q with filters := filters } = _
    unfold draftKpi
    simp only [hdialect, hk, hall, he, hload, bind, Except.bind]
    rfl

/-! ### Stores that agree on a connection -/

/-- A draft with the mappings of another store. -/
def Draft.remapped (d : Draft) (store : Store) : Draft :=
  { d with mappings :=
      store.mappingsOf (d.facts.map (·.id)) (some (d.dimensions.map (·.id))) }

section
variable {settings : Setup} {s s' : Store} {c : Connection} {m : MeasureQuery}

lemma Store.Agree.loadDimensions (h : Store.Agree c.id s s') (selected : List Int)
    (filters : List Filter) :
    Compile.loadDimensions s' c.id selected filters =
      Compile.loadDimensions s c.id selected filters := by
  have hnodup := dimensionIds_nodup selected filters
  have hfound : s'.dimensionsOf c.id (dimensionIds selected filters) =
      s.dimensionsOf c.id (dimensionIds selected filters) := by
    rw [Store.dimensionsOf_eq _ _ hnodup, Store.dimensionsOf_eq _ _ hnodup, h.dimension?]
  simp only [Compile.loadDimensions, hfound]

/-- In a store that agrees, a query has the same draft up to its mappings. -/
theorem draft_of_agree (h : Store.Agree c.id s s') {d : Draft}
    (hdraft : m.draft settings s c = .ok d) :
    m.draft settings s' c = .ok (d.remapped s') := by
  cases m with
  | facts q =>
    obtain ⟨hdialect, hfs, hids, hds, _, hmeasured, hselected, hfilters⟩ :=
      draftFacts_ok_iff.mp hdraft
    refine draftFacts_ok_iff.mpr ⟨hdialect, ?_, hids, ⟨?_, hds.ids⟩, ?_, hmeasured, hselected,
      hfilters⟩
    · rwa [h.factsOf _ (nodup_eraseDups _)]
    · rw [h.dimension?]
      exact hds.records
    · rw [← hids]
      rfl
  | kpi q =>
    obtain ⟨k, all, e, hdialect, hk, hall, he, hds, hd⟩ := draftKpi_ok hdraft
    have hload : loadDimensions s c.id q.dimensionIds q.filters = .ok d.dimensions :=
      loadDimensions_ok_iff.mpr hds
    rw [hd]
    show draftKpi settings s' c q = _
    unfold draftKpi
    simp only [h.kpi?, h.factsOn, h.loadDimensions, hdialect, hk, hall, he, hload, bind,
      Except.bind]
    rfl

/-- A query without a draft fails alike in a store that agrees. -/
theorem draft_error_of_agree (h : Store.Agree c.id s s') {x : Fault}
    (hdraft : m.draft settings s c = .error x) : m.draft settings s' c = .error x := by
  cases m with
  | facts q =>
    change draftFacts s c q = .error x at hdraft
    change draftFacts s' c q = .error x
    unfold draftFacts at hdraft ⊢
    dsimp only at hdraft ⊢
    rw [h.factsOf _ (nodup_eraseDups _), h.loadDimensions]
    refine bind_error_congr hdraft fun dialect h => bind_error_congr h fun fs h =>
      bind_error_congr h fun _ h => bind_error_congr h fun ds h => ?_
    cases h
  | kpi q =>
    change draftKpi settings s c q = .error x at hdraft
    change draftKpi settings s' c q = .error x
    unfold draftKpi at hdraft ⊢
    rw [h.kpi?, h.factsOn, h.loadDimensions]
    refine bind_error_congr hdraft fun dialect h => ?_
    cases hk : s.kpi? c.id q.kpiId with
    | none =>
      rw [hk] at h
      exact h
    | some k =>
      rw [hk] at h
      refine bind_error_congr h fun all h => bind_error_congr h fun e h =>
        bind_error_congr h fun ds h => ?_
      cases h

end

/-! ### Stores that differ in their mappings -/

lemma Store.agree_withMappings (s : Store) (ms : List Mapping) (connectionId : Int) :
    Store.Agree connectionId s (s.withMappings ms) := by
  cases s <;> exact ⟨rfl, fun _ _ => rfl, rfl, rfl⟩

/-- With other mappings in the store, a query has the same draft up to its mappings. -/
theorem draft_withMappings {settings : Setup} {store : Store} {c : Connection}
    {m : MeasureQuery} {d : Draft} (h : m.draft settings store c = .ok d) (ms : List Mapping) :
    m.draft settings (store.withMappings ms) c = .ok (d.remapped (store.withMappings ms)) :=
  draft_of_agree (store.agree_withMappings ms c.id) h

/-- A query without a draft fails alike. -/
theorem draft_error_withMappings {settings : Setup} {store : Store} {c : Connection}
    {m : MeasureQuery} {x : Fault} (h : m.draft settings store c = .error x)
    (ms : List Mapping) : m.draft settings (store.withMappings ms) c = .error x :=
  draft_error_of_agree (store.agree_withMappings ms c.id) h

end MetricLayer
