import MetricLayer.Proofs.Catalog.Sound

/-!
# Entries of a catalog that is built

A store that is built from a catalog holds what the entries of the catalog give and nothing
else, and each record is found under its id. The ids of connections are not compared, though: of
the connections with one id only the last is kept.
-/
namespace MetricLayer.Catalog

variable {α : Type}

/-- The connections of a store are those of a list, except that a later one displaces an
earlier one of its id. -/
structure KeepsLast (m : Memory) (cs : List Connection) : Prop where
  last : ∀ id, (Store.memory m).connection? id = cs.reverse.find? (·.id == id)
  only : ∀ c ∈ m.connections, c ∈ cs
  /-- No connection is lost if those with the same id are the same. -/
  each : (∀ c ∈ cs, (Store.memory m).connection? c.id = some c) ↔
    ∀ c ∈ cs, ∀ d ∈ cs, c.id = d.id → c = d
  all : m.connections = cs ↔ (cs.map (·.id)).Nodup

/-- The records of a store are those that the entries of a catalog give, and each is found under
its id, a mapping under its pair. -/
structure Kept (env : List (String × String)) (data : List (Value × Value)) (m : Memory) :
    Prop where
  connections : ∃ cs, Gives data "connections" (Describes env) cs ∧ KeepsLast m cs
  facts : Gives data "facts" (fun v f => Fact.check v = .passed f) m.facts
  dimensions : Gives data "dimensions" (fun v d => Dimension.check v = .passed d) m.dimensions
  kpis : Gives data "kpis" (fun v k => Kpi.check v = .passed k) m.kpis
  reports : Gives data "reports" (fun v r => Report.check v = .passed r) m.reports
  mappings : ∃ xs, Gives data "mappings" (fun v x => Mapping.check v = .passed x) xs ∧
    m.mappings = Store.numbered 1 xs
  fact_iff : ∀ f, (Store.memory m).factsOf f.connectionId [f.id] = .ok [f] ↔ f ∈ m.facts
  dimension_iff : ∀ d,
    (Store.memory m).dimensionsOf d.connectionId [d.id] = [d] ↔ d ∈ m.dimensions
  kpi_iff : ∀ k, (Store.memory m).kpi? k.connectionId k.id = some k ↔ k ∈ m.kpis
  report_iff : ∀ r, (Store.memory m).report? r.id = .ok (some r) ↔ r ∈ m.reports
  mapping_iff : ∀ x,
    (Store.memory m).mappingsOf [x.factId] (some [x.dimensionId]) = [x] ↔ x ∈ m.mappings

/-! ### Connections -/

lemma Content.keepsLast (c : Content) : KeepsLast c.memory c.connections where
  last := c.connection?_memory
  only d hd := by
    rcases Store.mem_of_mem_foldl_putById hd with hnone | hmem
    · cases hnone
    · exact hmem
  each := by
    constructor
    · intro hfound a ha b hb hid
      have hsame := hfound a ha
      rw [hid, hfound b hb] at hsame
      exact (Option.some.inj hsame).symm
    · intro hsame a ha
      obtain ⟨b, hb⟩ := Option.isSome_iff_exists.mp
        (List.find?_isSome (p := (·.id == a.id)).mpr ⟨a, List.mem_reverse.mpr ha, by simp⟩)
      have hid : b.id = a.id := by simpa using List.find?_some hb
      have hmem : b ∈ c.connections := List.mem_reverse.mp (List.mem_of_find?_eq_some hb)
      rw [hsame b hmem a ha hid] at hb
      exact (c.connection?_memory a.id).trans hb
  all := by
    constructor
    · intro heq
      have hids : (c.memory.connections.map (·.id)).Nodup :=
        Store.nodup_foldl_putById (by simp) c.connections
      rwa [heq] at hids
    · intro hids
      have hids' : ((([] : List Connection) ++ c.connections).map (·.id)).Nodup := hids
      exact Store.foldl_putById_of_nodup hids'

/-! ### Records under their ids -/

section
variable {k : Kind α} {as : List α} {a : α}

/-- The records of a kind that are asked for by an id. -/
lemma filter_found_iff (hids : (as.map k.id).Nodup) :
    ([k.id a].filterMap fun i => as.find? (k.id · == i)).filter
      (k.connectionId · == k.connectionId a) = [a] ↔ a ∈ as := by
  constructor
  · intro h
    have hmem := List.mem_of_mem_filter (h ▸ List.mem_singleton_self a)
    obtain ⟨i, _, hi⟩ := List.mem_filterMap.mp hmem
    exact List.mem_of_find?_eq_some hi
  · intro h
    have hfound : as.find? (k.id · == k.id a) = some a := (find?_key_iff hids).mpr ⟨h, rfl⟩
    simp [hfound]

lemma found_filter_iff (hids : (as.map k.id).Nodup) :
    (as.find? (k.id · == k.id a)).filter (k.connectionId · == k.connectionId a) = some a ↔
      a ∈ as := by
  rw [Option.filter_eq_some_iff, find?_key_iff hids]
  simp

end

/-! ### Mappings under their pairs -/

lemma filter_isWanted_iff {xs : List Mapping} (hpairs : (xs.map Mapping.pair).Nodup)
    {x : Mapping} : xs.filter (Mapping.isWanted [x.factId] (some [x.dimensionId])) = [x] ↔
      x ∈ xs := by
  have hwanted : Mapping.isWanted [x.factId] (some [x.dimensionId]) = (·.pair == x.pair) := by
    funext y
    rw [Bool.eq_iff_iff]
    simp [Mapping.isWanted, Mapping.pair]
  rw [hwanted]
  constructor
  · intro h
    exact List.mem_of_mem_filter (h ▸ List.mem_singleton_self x)
  · exact filter_key_eq_singleton hpairs

/-- The store of a catalog that is built holds what the entries give, except that a connection
is displaced by a later one of its id. -/
theorem entries_kept {env : List (String × String)} {data : List (Value × Value)} {m : Memory}
    (h : build env data = .ok m) : Kept env data m := by
  obtain ⟨c, hc, rfl⟩ := build_ok h
  exact {
    connections := ⟨c.connections, hc.connections, c.keepsLast⟩
    facts := hc.facts.entries
    dimensions := hc.dimensions.entries
    kpis := hc.kpis.entries
    reports := hc.reports.entries
    mappings := ⟨c.mappings, hc.mappings, rfl⟩
    fact_iff f := (Except.ok.injEq _ _).to_iff.trans (filter_found_iff hc.facts.ids)
    dimension_iff d := filter_found_iff hc.dimensions.ids
    kpi_iff k := found_filter_iff hc.kpis.ids
    report_iff r := by
      have hfound := find?_key_iff hc.reports.ids (k := r.id) (x := r)
      simpa [Store.report?, Memory.report?, Content.memory, reportKind] using hfound
    mapping_iff x := filter_isWanted_iff hc.pairs_memory }

theorem entries_kept_shop :
    build shopEnvironment shopCatalog = .ok shop ∧ Kept shopEnvironment shopCatalog shop :=
  ⟨build_shop, entries_kept build_shop⟩

/-- An entry for the shop's database on a host. -/
def hostEntry (host : String) : Value :=
  Value.record [("id", .int 1), ("type", .str "postgres"), ("hostname", .str host),
    ("port", .int 5432), ("database", .str "shop"), ("username", .str "analyst"),
    ("password", .str "s3cret")]

/-- The shop's database on a host. -/
def hostConnection (host : String) : Connection :=
  ⟨1, none, "", "postgres", host, 5432, "shop", "analyst", "s3cret", none, none, none⟩

/-- A catalog with two connections of one id, the second to an archive. -/
def archivedCatalog : List (Value × Value) := [
  (.str "connections", .list [hostEntry "sales", hostEntry "archive"]),
  (.str "facts", .list [Value.record [("id", .int 1), ("connection_id", .int 1),
    ("name", .str "Revenue"), ("table", .str "orders"), ("column", .str "amount")]])]

/-- The store of that catalog. -/
def archived : Memory where
  connections := [hostConnection "archive"]
  facts := [⟨1, 1, "Revenue", "orders", "amount", .sum⟩]

/-- The first of two connections with one id is lost. -/
theorem connection_displaced :
    build [] archivedCatalog = .ok archived ∧
    sectionOf archivedCatalog "connections" = .ok [hostEntry "sales", hostEntry "archive"] ∧
    Connection.check (hostEntry "sales") = .passed (hostConnection "sales") ∧
    (Store.memory archived).connection? 1 = some (hostConnection "archive") ∧
    hostConnection "archive" ≠ hostConnection "sales" := by
  refine ⟨?_, rfl, ?_, by decide, by decide⟩
  · cbv
  · cbv

end MetricLayer.Catalog
