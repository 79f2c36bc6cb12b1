import MetricLayer.Proofs.Compile.Query
import MetricLayer.Proofs.Store.Connection

/-!
# Connections are isolated

A query on a connection sees the records of that connection only. Stores that hold the same of
it give the query the same outcome, whatever they hold of other connections; so an id of
another connection is answered like an id that does not exist.
-/
namespace MetricLayer.Compile
open Join Store

section
variable {settings : Setup} {s s' : Store} {c : Connection} {m : MeasureQuery} {d : Draft}

lemma factIdsOn_of_draft (hs : s.Distinct) (hdraft : m.draft settings s c = .ok d) {f : Fact}
    (hf : f ∈ d.facts) : f.id ∈ s.factIdsOn c.id := by
  cases m with
  | facts q =>
    have h := draftFacts_ok_iff.mp hdraft
    have hid : f.id ∈ q.factIds.eraseDups := by
      rw [← h.factIds]
      exact List.mem_map_of_mem hf
    exact (mem_factsOf hs.keyed (nodup_eraseDups _) h.facts hid).mp (List.mem_map_of_mem hf)
  | kpi q =>
    obtain ⟨k, all, e, _, _, hall, he, _, hd⟩ := draftKpi_ok hdraft
    rw [hd] at hf
    rw [factsOn_eq] at hall
    obtain ⟨⟨id, r⟩, hrecord, rfl⟩ := (mem_mapM_iff hall).mp (Kpi.mem_expand he hf)
    rw [id_of_factRecords hrecord]
    exact List.mem_map_of_mem (f := Prod.fst) hrecord

/-- A pair of a draft has the same mapping in both stores, up to its id. -/
lemma mappingOf_sameOn (hs : s.Distinct) (hs' : s'.Distinct) (h : SameOn c.id s s')
    (hdraft : m.draft settings s c = .ok d) {f : Fact} (hf : f ∈ d.facts) {x : Dimension}
    (hx : x ∈ d.dimensions) :
    (mappingOf (d.remapped s').mappings f.id x.id).map Mapping.unnumbered =
      (mappingOf d.mappings f.id x.id).map Mapping.unnumbered := by
  have hdrafted := drafted_of_ok hdraft
  have hfs : f.id ∈ d.facts.map (·.id) := List.mem_map_of_mem hf
  have hxs : x.id ∈ d.dimensions.map (·.id) := List.mem_map_of_mem hx
  have hxon : x.id ∈ s.dimensionIdsOn c.id :=
    List.mem_map_of_mem (dimension?_mem (hdrafted.dimensions.mem_iff.mp hx).2)
  rw [hdrafted.mappings, s.mappingOf_mappingsOf hfs hxs]
  show (mappingOf (s'.mappingsOf _ _) f.id x.id).map Mapping.unnumbered = _
  rw [s'.mappingOf_mappingsOf hfs hxs]
  exact h.mappingOf hs hs' (factIdsOn_of_draft hs hdraft hf) hxon

/-- A draft needs the same tables in both stores, and is planned alike. -/
lemma plan_sameOn (hs : s.Distinct) (hs' : s'.Distinct) (h : SameOn c.id s s')
    (hdraft : m.draft settings s c = .ok d) :
    (d.remapped s').needed = d.needed ∧
      ∀ columns, (d.remapped s').plan columns = d.plan columns := by
  have hpairs : ∀ f ∈ d.facts, ∀ x ∈ d.dimensions, ∀ columns,
      pair (d.remapped s').mappings columns f x = pair d.mappings columns f x ∧
        needsColumns (d.remapped s').mappings f x = needsColumns d.mappings f x :=
    fun f hf x hx _ => pair_congr_unnumbered (mappingOf_sameOn hs hs' h hdraft hf hx)
  have hneeded : neededTables d.facts d.dimensions (d.remapped s').mappings =
      neededTables d.facts d.dimensions d.mappings :=
    neededTables_congr fun f hf x hx => (hpairs f hf x hx []).2
  refine ⟨hneeded, fun columns => congrArg (· >>= _) ?_⟩
  exact resolve_congr_of_missing
    (congrArg (fun tables => columns.isNone && !List.isEmpty tables) hneeded)
    fun f hf x hx => (hpairs f hf x hx _).1

/-- Stores that hold the same of a connection look up the same tables for a query on it, and
answer it alike. -/
lemma compile_sameOn (catalog : Option (String → List String)) (hs : s.Distinct)
    (hs' : s'.Distinct) (h : SameOn c.id s s') :
    m.compile settings s' c catalog = m.compile settings s c catalog ∧
      m.lookups settings s' c = m.lookups settings s c := by
  rw [MeasureQuery.compile_eq, MeasureQuery.compile_eq, MeasureQuery.lookups,
    MeasureQuery.lookups]
  cases hdraft : m.draft settings s c with
  | error x =>
    rw [draft_error_of_agree (h.agree hs hs') hdraft]
    exact ⟨rfl, rfl⟩
  | ok d =>
    obtain ⟨hneeded, hplan⟩ := plan_sameOn hs hs' h hdraft
    rw [draft_of_agree (h.agree hs hs') hdraft]
    refine ⟨?_, hneeded⟩
    show (d.remapped s').complete settings (catalog.map fun columns =>
      (d.remapped s').needed.map fun t => (t, columns t)) = _
    rw [hneeded]
    exact congrArg (· >>= _) (hplan _)

end

/-- Queries on a connection are answered alike by any two stores that hold the same of the
connection. So an id of another connection is answered like an id that does not exist: as it is
in the store without the records of other connections. -/
theorem connection_isolated (settings : Setup) (s : Store) (c : Connection)
    (catalog : Option (String → List String)) (m : MeasureQuery) (hs : s.Distinct) :
    (∀ s' : Store, s'.Distinct → SameOn c.id s s' →
      m.compile settings s' c catalog = m.compile settings s c catalog ∧
        m.lookups settings s' c = m.lookups settings s c) ∧
    m.compile settings (s.only c.id) c catalog = m.compile settings s c catalog ∧
      ∀ k, k ≠ c.id → (s.only c.id).factIdsOn k = [] ∧ (s.only c.id).dimensionsOn k = [] ∧
        (s.only c.id).kpisOn k = [] := by
  refine ⟨fun s' hs' h => compile_sameOn catalog hs hs' h, ?_, fun k hk => only_elsewhere s hk⟩
  exact (compile_sameOn catalog hs (hs.only c.id) (sameOn_only s c.id)).1

/-- Orders by region for one tenant, salaries for another, and a mapping across both. -/
def tenants : Store := .memory {
  facts := [⟨1, 1, "Revenue", "orders", "amount", .sum⟩, ⟨2, 2, "Salaries", "staff", "pay", .sum⟩]
  dimensions := [⟨1, 1, "Region", "regions", "name"⟩]
  mappings := [⟨some 1, 2, 1, "staff_regions", "site", "id"⟩,
    ⟨some 2, 1, 1, "regions", "region_id", "id"⟩] }

/-- The same orders by region in tables, and nothing else. -/
def tenant : Store := .relational {
  facts := [⟨1, 1, "Revenue", "orders", "amount", "sum"⟩]
  dimensions := [⟨1, 1, "Region", "regions", "name"⟩]
  mappings := [⟨some 9, 1, 1, "regions", "region_id", "id"⟩] }

def tenantConnection : Connection := ⟨1, none, "shop", "postgres", "db", 5432, "shop", "u", "p",
  none, none, none⟩

/-- The salaries of the other tenant cannot be told from a fact that does not exist. -/
theorem connection_isolated_tenants :
    tenants.Distinct ∧ tenant.Distinct ∧ SameOn 1 tenants tenant ∧
      (∃ out, (MeasureQuery.facts ⟨[1], [1], none, []⟩).compile { validateSql := false } tenants
          tenantConnection none = .ok out ∧
        (MeasureQuery.facts ⟨[1], [1], none, []⟩).compile { validateSql := false } tenant
          tenantConnection none = .ok out) ∧
      (MeasureQuery.facts ⟨[2], [], none, []⟩).compile { validateSql := false } tenants
          tenantConnection none = .error (undefinedOn "fact" 2 1) ∧
        (MeasureQuery.facts ⟨[2], [], none, []⟩).compile { validateSql := false } tenant
          tenantConnection none = .error (undefinedOn "fact" 2 1) := by
  have htenants : tenants.Distinct := ⟨⟨by decide, by decide⟩, by decide, by decide⟩
  have htenant : tenant.Distinct :=
    ⟨⟨by decide, by decide⟩, by decide, (tenant.mappings_perm.map _).nodup_iff.mpr (by decide)⟩
  have hread : FactRow.read ⟨1, 1, "Revenue", "orders", "amount", "sum"⟩ =
      .ok ⟨1, 1, "Revenue", "orders", "amount", .sum⟩ := rfl
  have hfacts : tenant.factRecords 1 = tenants.factRecords 1 := by
    simp [tenant, tenants, factRecords, Memory.factsOn, sortById, hread]
  have hdimensions : tenant.dimensionsOn 1 = tenants.dimensionsOn 1 := by
    simp [tenant, tenants, dimensionsOn, Memory.dimensionsOn, Relational.dimensionsOn, sortById]
  have hsame : SameOn 1 tenants tenant := by
    refine ⟨hfacts, hdimensions, rfl, fun m => ?_⟩
    have hmappings : tenant.mappingsOn 1 = tenants.mappingsOn 1 := by
      rw [mappingsOn, isOn_congr hfacts hdimensions]
      simp only [mappings, tenant, sortById, List.mergeSort_singleton]
      rfl
    rw [hmappings]
  refine ⟨htenants, htenant, hsame, ⟨_, rfl, ?_⟩, rfl, ?_⟩
  · exact ((connection_isolated { validateSql := false } tenants tenantConnection none _
      htenants).1 tenant htenant hsame).1
  · exact ((connection_isolated { validateSql := false } tenants tenantConnection none _
      htenants).1 tenant htenant hsame).1

end MetricLayer.Compile
