import Mathlib.Data.List.Permutation
import MetricLayer.Proofs.Catalog.Sections

/-!
# References of a catalog that is built

Every record of a store that is built from a catalog belongs to a connection of the store, and
what its mappings and its links refer to is there. Ids differ in each kind of record, and names
differ on each connection, in whatever letter case they are written.
-/
namespace MetricLayer.Catalog

variable {α : Type}

/-- The records of a kind belong to connections. Their ids differ, and on each connection so do
their names in lower case. -/
structure Kind.Sound (k : Kind α) (connections : List Connection) (records : List α) : Prop where
  owned : ∀ a ∈ records, ∃ c ∈ connections, c.id = k.connectionId a
  ids : (records.map k.id).Nodup
  names : records.Pairwise fun a b =>
    k.connectionId a = k.connectionId b → Text.lower (k.name a) ≠ Text.lower (k.name b)

/-- Whatever a store refers to is in it, and its records are told apart. -/
structure Sound (m : Memory) : Prop where
  facts : factKind.Sound m.connections m.facts
  dimensions : dimensionKind.Sound m.connections m.dimensions
  kpis : kpiKind.Sound m.connections m.kpis
  reports : reportKind.Sound m.connections m.reports
  joins : ∀ x ∈ m.mappings, Joins m.facts m.dimensions x
  pairs : (m.mappings.map Mapping.pair).Nodup
  links : ∀ r ∈ m.reports, ∀ t ∈ r.drillTargets, ∃ s ∈ m.reports, s.id = t.reportId

/-! ### Connections -/

/-- A connection may be displaced, but there is one under each id. -/
lemma Content.exists_connection {c : Content} {id : Int} (h : id ∈ c.connections.map (·.id)) :
    ∃ d ∈ c.memory.connections, d.id = id := by
  obtain ⟨b, hb, rfl⟩ := List.mem_map.mp h
  have hsome : (c.connections.reverse.find? (·.id == b.id)).isSome = true :=
    List.find?_isSome.mpr ⟨b, List.mem_reverse.mpr hb, by simp⟩
  rw [← c.connection?_memory] at hsome
  obtain ⟨d, hd⟩ := Option.isSome_iff_exists.mp hsome
  have hid : d.id = b.id := by simpa using List.find?_some hd
  exact ⟨d, List.mem_of_find?_eq_some hd, hid⟩

/-- The records of a section are sound beside the connections that are kept. -/
lemma Kind.Section.sound {k : Kind α} {data : List (Value × Value)} {c : Content} {as : List α}
    (h : k.Section data (c.connections.map (·.id)) as) : k.Sound c.memory.connections as where
  owned a ha := Content.exists_connection (h.owned a ha)
  ids := h.ids
  names := by
    have hkeys : as.Pairwise fun a b => k.key a ≠ k.key b := List.pairwise_map.mp h.keys
    refine hkeys.imp fun hne hconnection hname => ?_
    exact hne (Prod.ext hconnection hname)

/-! ### Mappings -/

/-- A mapping joins the same under any number. -/
lemma joins_numbered {facts : List Fact} {dimensions : List Dimension} {n : Int}
    {xs : List Mapping} (h : ∀ x ∈ xs, Joins facts dimensions x) :
    ∀ x ∈ Store.numbered n xs, Joins facts dimensions x := by
  intro x hx
  have hmem : x.unnumbered ∈ xs.map Mapping.unnumbered := by
    rw [← Store.unnumbered_numbered n xs]
    exact List.mem_map_of_mem hx
  obtain ⟨y, hy, heq⟩ := List.mem_map.mp hmem
  have hjoins : Joins facts dimensions y.unnumbered := h y hy
  rw [heq] at hjoins
  exact hjoins

/-- The store of a catalog that is built is sound. -/
theorem build_sound {env : List (String × String)} {data : List (Value × Value)} {m : Memory}
    (h : build env data = .ok m) : Sound m := by
  obtain ⟨c, hc, rfl⟩ := build_ok h
  exact {
    facts := hc.facts.sound
    dimensions := hc.dimensions.sound
    kpis := hc.kpis.sound
    reports := hc.reports.sound
    joins := joins_numbered hc.joins
    pairs := hc.pairs_memory
    links := hc.links }

/-- The catalog of a shop. The password of its database is kept in the environment. -/
def shopCatalog : List (Value × Value) := [
  (.str "connections", .list [Value.record [("id", .int 1), ("type", .str "postgres"),
    ("hostname", .str "db"), ("port", .int 5432), ("database", .str "shop"),
    ("username", .str "analyst"), ("password_env", .str "SHOP_PASSWORD")]]),
  (.str "facts", .list [Value.record [("id", .int 1), ("connection_id", .int 1),
    ("name", .str "Revenue"), ("table", .str "orders"), ("column", .str "amount")]]),
  (.str "dimensions", .list [Value.record [("id", .int 1), ("connection_id", .int 1),
    ("name", .str "Region"), ("table", .str "regions"), ("column", .str "name")]]),
  (.str "mappings", .list [Value.record [("fact_id", .int 1), ("dimension_id", .int 1),
    ("join_table", .str "regions"), ("fact_column", .str "region_id"),
    ("dimension_column", .str "id")]]),
  (.str "kpis", .list [Value.record [("id", .int 1), ("connection_id", .int 1),
    ("name", .str "Twice"), ("expression", .str "Revenue * 2")]]),
  (.str "reports", .list [Value.record [("id", .int 1), ("connection_id", .int 1),
    ("name", .str "Orders"), ("base_table", .str "orders"),
    ("drill_targets", .list [Value.record [("target_report_id", .int 1)]])]])]

/-- The environment with the password of the shop. -/
def shopEnvironment : List (String × String) := [("SHOP_PASSWORD", "s3cret")]

/-- The store of the shop. -/
def shop : Memory where
  connections :=
    [⟨1, none, "", "postgres", "db", 5432, "shop", "analyst", "s3cret", none, none, none⟩]
  facts := [⟨1, 1, "Revenue", "orders", "amount", .sum⟩]
  dimensions := [⟨1, 1, "Region", "regions", "name"⟩]
  kpis := [⟨1, 1, "Twice", "Revenue * 2", none⟩]
  reports := [⟨1, 1, none, "Orders", none, "orders", [], [], [⟨1, [], none⟩]⟩]
  mappings := [⟨some 1, 1, 1, "regions", "region_id", "id"⟩]

lemma build_shop : build shopEnvironment shopCatalog = .ok shop := by
  cbv

theorem build_sound_shop : build shopEnvironment shopCatalog = .ok shop ∧ Sound shop :=
  ⟨build_shop, build_sound build_shop⟩

end MetricLayer.Catalog
