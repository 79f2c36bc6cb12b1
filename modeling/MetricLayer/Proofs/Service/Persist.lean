import MetricLayer.Proofs.Compile.Query
import MetricLayer.Proofs.Service.AutoMap
import MetricLayer.Proofs.Store.Built

/-!
# Inferred mappings change no query

A mapping is inferred for a pair exactly where a query finds the same join by itself. So a query
compiles to the same result, or fails with the same error, before and after mappings are
inferred, although it looks up fewer tables afterwards.
-/
namespace MetricLayer.Service
open Join Store

/-! ### Mappings after they are inferred -/

/-- The new mapping of a pair is the one that is stored for it. -/
lemma mappingOf_newMappings {g : String → List String} {store : Store}
    {pairs : List (Fact × Dimension)} (hids : (pairs.map idsOf).Nodup) {e : Fact × Dimension}
    (he : e ∈ pairs) :
    mappingOf (pairs.filterMap (newMapping g store)) e.1.id e.2.id = newMapping g store e := by
  have hnodup : ((pairs.filterMap (newMapping g store)).map Mapping.pair).Nodup :=
    (map_key_filterMap_sublist fun _ _ => pair_of_newMapping).nodup hids
  ext x
  have hfind := find?_reverse_key_iff hnodup (k := idsOf e) (x := x)
  refine hfind.trans ?_
  rw [List.mem_filterMap]
  constructor
  · rintro ⟨⟨e', he', hx⟩, hpair⟩
    have heq : idsOf e' = idsOf e := (pair_of_newMapping hx).symm.trans hpair
    rwa [← List.inj_on_of_nodup_map hids he' he heq]
  · exact fun hx => ⟨⟨e, he, hx⟩, pair_of_newMapping hx⟩

/-- A pair keeps its mapping, and gets a new one only if it had none. -/
theorem mapping_after {g : String → List String} {store store' : Store}
    {pairs : List (Fact × Dimension)} {created : List Mapping}
    (hall : StoresAll store (pairs.filterMap (newMapping g store)) created store')
    (hids : (pairs.map idsOf).Nodup) {e : Fact × Dimension} (he : e ∈ pairs) :
    (mappingOf store'.mappings e.1.id e.2.id).map Mapping.unnumbered =
      ((mappingOf store.mappings e.1.id e.2.id).or (newMapping g store e)).map
        Mapping.unnumbered := by
  have hstored := hall.stored e.1.id e.2.id
  rw [mappingOf_newMappings hids he] at hstored
  rw [hall.mapping, Option.map_or, Option.map_or, hstored]
  cases hold : mappingOf store.mappings e.1.id e.2.id with
  | none => simp
  | some m =>
    have hnone : newMapping g store e = none := by simp [newMapping, isSettled, hold]
    simp [hnone]

/-! ### Pairs after mappings are inferred -/

/-- The columns of its tables give a pair the same join by a mapping as without one. -/
lemma pair_inferred {mappings : List Mapping} {columns : Columns} {f : Fact} {d : Dimension}
    {g : String → List String} {m : Mapping} (hnone : mappingOf mappings f.id d.id = none)
    (htable : d.table ≠ f.table) (hf : columns.of f.table = g f.table)
    (hd : columns.of d.table = g d.table) (hm : inferredMapping g f d = some m) :
    pair mappings columns f d = .joined (some (mappedEdge f m)) m.joinTable d.column := by
  unfold inferredMapping at hm
  split at hm
  · rename_i hcontains
    obtain ⟨c, hcommon, rfl⟩ := Option.map_eq_some_iff.mp hm
    have hcolumn : d.column ∈ g d.table := List.contains_iff_mem.mp hcontains
    have hne : (g d.table).isEmpty = false :=
      List.isEmpty_eq_false_iff.mpr (List.ne_nil_of_mem hcolumn)
    simp [pair, hnone, htable, inferred, hf, hd, hne, hcolumn, hcommon, mappedEdge]
  · cases hm

/-! ### Queries -/

section
variable {g : String → List String} {store store' : Store} {c : Connection} {m : MeasureQuery}
  {d : Draft} {fs : List Fact} {created : List Mapping}

/-- A query finds the mapping that its pair had, or else the one that is inferred for it. -/
lemma draft_mapping_after (h : Drafted store c m d) (hkeyed : store.Keyed)
    (hfs : store.factsOn c.id = .ok fs)
    (hall : StoresAll store ((allPairs fs (store.dimensionsOn c.id)).filterMap
      (newMapping g store)) created store')
    {f : Fact} (hf : f ∈ d.facts) {x : Dimension} (hx : x ∈ d.dimensions) :
    (mappingOf (d.remapped store').mappings f.id x.id).map Mapping.unnumbered =
      ((mappingOf d.mappings f.id x.id).or (newMapping g store (f, x))).map
        Mapping.unnumbered := by
  have hpair : (f, x) ∈ allPairs fs (store.dimensionsOn c.id) :=
    mem_allPairs.mpr ⟨h.facts fs hfs hf, Store.dimension?_mem (h.dimensions.mem_iff.mp hx).2⟩
  have hbefore : mappingOf d.mappings f.id x.id = mappingOf store.mappings f.id x.id := by
    rw [h.mappings]
    exact store.mappingOf_mappingsOf (List.mem_map_of_mem hf) (List.mem_map_of_mem hx)
  have hremapped : mappingOf (d.remapped store').mappings f.id x.id =
      mappingOf store'.mappings f.id x.id :=
    store'.mappingOf_mappingsOf (List.mem_map_of_mem hf) (List.mem_map_of_mem hx)
  rw [hbefore, hremapped]
  exact mapping_after hall (nodup_allPairs (hkeyed.facts hfs) (hkeyed.dimensions c.id)) hpair

/-- A pair of a query has the same outcome before and after mappings are inferred. -/
lemma pair_after (h : Drafted store c m d) (hkeyed : store.Keyed)
    (hfs : store.factsOn c.id = .ok fs)
    (hall : StoresAll store ((allPairs fs (store.dimensionsOn c.id)).filterMap
      (newMapping g store)) created store')
    {f : Fact} (hf : f ∈ d.facts) {x : Dimension} (hx : x ∈ d.dimensions) :
    pair (d.remapped store').mappings (((d.remapped store').known (some g)).getD []) f x =
      pair d.mappings ((d.known (some g)).getD []) f x := by
  have hafter := draft_mapping_after h hkeyed hfs hall hf hx
  cases hold : mappingOf d.mappings f.id x.id with
  | some y =>
    rw [hold] at hafter
    rw [pair_unnumbered hafter, pair_mapped hold]
  | none =>
    rw [hold, Option.none_or] at hafter
    cases hnew : newMapping g store (f, x) with
    | none =>
      rw [hnew] at hafter
      have hsame : mappingOf (d.remapped store').mappings f.id x.id =
          mappingOf d.mappings f.id x.id := by
        rw [hold]
        exact Option.map_eq_none_iff.mp hafter
      have hf' : f ∈ (d.remapped store').facts := hf
      have hx' : x ∈ (d.remapped store').dimensions := hx
      exact Draft.pair_congr hf hf' hx hx' hsame (some g)
    | some y =>
      rw [hnew] at hafter
      obtain ⟨htable, hinferred⟩ := inferred_of_newMapping hnew
      have hneeds : needsColumns d.mappings f x = true := by simp [needsColumns, hold, htable]
      obtain ⟨hfneeded, hxneeded⟩ := mem_neededTables hf hx hneeds
      rw [pair_unnumbered hafter]
      exact (pair_inferred hold htable (Draft.known_of hfneeded (some g))
        (Draft.known_of hxneeded (some g)) hinferred).symm

/-- A query compiles alike before and after mappings are inferred. -/
lemma compile_after (settings : Setup) (hkeyed : store.Keyed)
    (hfs : store.factsOn c.id = .ok fs)
    (hall : StoresAll store ((allPairs fs (store.dimensionsOn c.id)).filterMap
      (newMapping g store)) created store') :
    m.compile settings store' c (some g) = m.compile settings store c (some g) := by
  obtain ⟨ms, rfl⟩ := hall.records
  cases hdraft : m.draft settings store c with
  | error x =>
    rw [MeasureQuery.compile_eq, MeasureQuery.compile_eq, hdraft,
      draft_error_withMappings hdraft ms]
  | ok d =>
    have h := drafted_of_ok hdraft
    have hresolve := resolve_congr fun f hf x hx => pair_after h hkeyed hfs hall hf hx
    rw [MeasureQuery.compile_of_draft hdraft,
      MeasureQuery.compile_of_draft (draft_withMappings hdraft ms)]
    have hplan : (d.remapped (store.withMappings ms)).plan
        ((d.remapped (store.withMappings ms)).known (some g)) = d.plan (d.known (some g)) :=
      congrArg (· >>= _) hresolve
    rw [hplan]
    rfl

end

/-- A run that can look up the columns of every table leaves the store with the mappings that are
inferred from them. -/
lemma stored_autoMap {a : Asker} {w : World} {p : Pool} {g : String → List String}
    {fs : List Fact} (hkeyed : w.store.Keyed)
    (hpool : (acquire a.connectionId a.user w).1 = .ok p)
    (hconnect : ∀ tick, w.target.connect tick = none)
    (hcolumns : ∀ tick t, w.target.columns tick p.schema t = .ok (g t))
    (hfs : w.store.factsOn a.connectionId = .ok fs) :
    ∃ created, StoresAll w.store ((allPairs fs (w.store.dimensionsOn a.connectionId)).filterMap
      (newMapping g w.store)) created (freshLookups (autoMapPairs a) w).2.store := by
  obtain ⟨created, store', hall, hgives⟩ := gives_autoMapPairs (g := g) hkeyed hfs
  obtain ⟨s, hs, hafter⟩ := hgives ⟨w, {}⟩ (.fresh ⟨⟨rfl, hconnect, hcolumns⟩, hpool, rfl⟩)
  have hrun : (freshLookups (autoMapPairs a) w).2.store = store' := by
    rw [← hafter.sameStore]
    unfold freshLookups
    rw [hs]
  rw [hrun]
  exact ⟨created, hall⟩

/-- Mappings that are inferred from a catalog are those that queries find in it by themselves:
with that catalog, every query on the connection compiles to the same result, or fails with the
same error, before and after. -/
theorem autoMap_preserves (settings : Setup) (a : Asker) (w : World) (p : Pool)
    (g : String → List String) (c : Connection) (m : MeasureQuery)
    (hc : c.id = a.connectionId) (hkeyed : w.store.Keyed)
    (hpool : (acquire a.connectionId a.user w).1 = .ok p)
    (hconnect : ∀ tick, w.target.connect tick = none)
    (hcolumns : ∀ tick t, w.target.columns tick p.schema t = .ok (g t)) :
    m.compile settings (freshLookups (autoMapPairs a) w).2.store c (some g) =
      m.compile settings w.store c (some g) := by
  cases hfs : w.store.factsOn a.connectionId with
  | error e =>
    have hrun : autoMapPairs a ⟨w, {}⟩ = (.error e, ⟨w, {}⟩) := autoMapPairs_unread hfs
    unfold freshLookups
    rw [hrun]
  | ok fs =>
    obtain ⟨created, hall⟩ := stored_autoMap hkeyed hpool hconnect hcolumns hfs
    rw [← hc] at hfs hall
    exact compile_after settings hkeyed hfs hall

/-- The columns of orders and of the customers who made them. -/
def shopColumns (table : String) : List String :=
  if table == "orders" then ["id", "customer_id", "amount"]
  else if table == "customers" then ["customer_id", "region"]
  else []

def shopConnection : Connection := ⟨1, none, "shop", "postgres", "db", 5432, "shop", "u", "p",
  none, none, none⟩

def orderAmount : Fact := ⟨1, 1, "Revenue", "orders", "amount", .sum⟩

def customerRegion : Dimension := ⟨1, 1, "Region", "customers", "region"⟩

/-- Orders are not mapped to the regions of customers yet. -/
def shop : World where
  store := .memory (((Memory.addConnection {} shopConnection).addFact orderAmount).addDimension
    customerRegion)
  target := { columns := fun _ _ t => .ok (shopColumns t) }

/-- Revenue by region. -/
def revenueByRegion : MeasureQuery := .facts ⟨[1], [1], none, []⟩

/-- Revenue by region is the same once the join on customers is stored. -/
theorem autoMap_preserves_region :
    mappingOf shop.store.mappings 1 1 = none ∧
      (mappingOf (freshLookups (autoMapPairs ⟨1, none⟩) shop).2.store.mappings 1 1).map
        Mapping.unnumbered = some ⟨none, 1, 1, "customers", "customer_id", "customer_id"⟩ ∧
      ∃ out, revenueByRegion.compile { validateSql := false } shop.store shopConnection
          (some shopColumns) = .ok out ∧
        revenueByRegion.compile { validateSql := false }
          (freshLookups (autoMapPairs ⟨1, none⟩) shop).2.store shopConnection
          (some shopColumns) = .ok out := by
  have hkeyed : shop.store.Keyed := (((Built.memory.connection _).fact _).dimension _).keyed
  refine ⟨rfl, ?_, ?_⟩
  · obtain ⟨created, hall⟩ := stored_autoMap (a := ⟨1, none⟩) (g := shopColumns) hkeyed rfl
      (fun _ => rfl) (fun _ _ => rfl) rfl
    have hafter := mapping_after hall (nodup_allPairs (by decide) (by decide))
      (e := (orderAmount, customerRegion)) (by decide)
    exact hafter.trans (by decide +kernel)
  · rw [autoMap_preserves { validateSql := false } ⟨1, none⟩ shop _ shopColumns shopConnection
      revenueByRegion rfl hkeyed rfl (fun _ => rfl) fun _ _ => rfl]
    have hsorted : (["orders", "customers"].mergeSort fun s t => s ≤ t) =
        ["customers", "orders"] := by
      simp [List.mergeSort, List.MergeSort.Internal.splitInTwo]
    have hneeded : neededTables [orderAmount] [customerRegion] [] = ["customers", "orders"] :=
      hsorted
    have hdraft : revenueByRegion.draft { validateSql := false } shop.store shopConnection =
        .ok ⟨.postgres, [orderAmount], [customerRegion], [], .facts none, [1], []⟩ := rfl
    rw [revenueByRegion.compile_of_draft hdraft, Draft.known, Draft.needed]
    dsimp only
    rw [hneeded]
    exact ⟨_, rfl, rfl⟩

end MetricLayer.Service
