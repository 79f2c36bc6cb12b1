import MetricLayer.Proofs.Fault
import MetricLayer.Proofs.Keyed
import MetricLayer.Store.Basic

/-!
# Records of a store

Facts and dimensions are looked up by their ids, whatever kind of store they are in: each is
the record of its id on the connection, and it is among all records of the connection.
-/
namespace MetricLayer.Store

/-! ### Dimensions -/

/-- The dimension of an id on a connection. -/
def dimension? (s : Store) (connectionId id : Int) : Option Dimension :=
  match s with
  | memory m => (m.dimensions.find? (·.id == id)).filter (·.connectionId == connectionId)
  | relational r => (r.dimensions.filter (·.connectionId == connectionId)).find? (·.id == id)

lemma dimensionsOf_eq (s : Store) (connectionId : Int) {ids : List Int} (h : ids.Nodup) :
    s.dimensionsOf connectionId ids = ids.filterMap (s.dimension? connectionId) := by
  cases s with
  | memory m =>
    simp only [dimensionsOf, Memory.dimensionsOf, List.filter_filterMap]
    rfl
  | relational r =>
    simp only [dimensionsOf, Relational.dimensionsOf, eraseDups_of_nodup h]
    rfl

lemma id_of_dimension? {s : Store} {connectionId id : Int} {d : Dimension}
    (h : s.dimension? connectionId id = some d) : d.id = id := by
  cases s with
  | memory m =>
    obtain ⟨hfound, _⟩ := Option.filter_eq_some_iff.mp h
    simpa using List.find?_some hfound
  | relational r => simpa using List.find?_some h

lemma dimension?_mem {s : Store} {connectionId id : Int} {d : Dimension}
    (h : s.dimension? connectionId id = some d) : d ∈ s.dimensionsOn connectionId := by
  cases s with
  | memory m =>
    obtain ⟨hfound, hconnection⟩ := Option.filter_eq_some_iff.mp h
    exact List.mem_filter.mpr ⟨List.mem_of_find?_eq_some hfound, hconnection⟩
  | relational r =>
    simpa [dimensionsOn, Relational.dimensionsOn, sortById] using List.mem_of_find?_eq_some h

/-! ### Facts -/

lemma FactRow.read_ok {r : FactRow} {f : Fact} (h : r.read = .ok f) :
    f.id = r.id ∧ f.connectionId = r.connectionId := by
  unfold FactRow.read at h
  simp only at h
  cases hc : (Aggregation.check (.str r.aggregation)).under (.key "aggregate_function") with
  | passed a =>
    rw [hc] at h
    obtain rfl := Except.ok.inj h
    exact ⟨rfl, rfl⟩
  | flawed issues =>
    rw [hc] at h
    cases h

/-- Facts of given ids are looked up one by one. -/
lemma factsOf_ok {s : Store} {connectionId : Int} {ids : List Int} {fs : List Fact}
    (hids : ids.Nodup) (h : s.factsOf connectionId ids = .ok fs) :
    ∃ look : Int → Option Fact, fs = ids.filterMap look ∧
      ∀ id f, look id = some f → f.id = id := by
  cases s with
  | memory m =>
    obtain rfl := Except.ok.inj h
    refine ⟨fun id => (m.facts.find? (·.id == id)).filter (·.connectionId == connectionId),
      by simp only [Memory.factsOf, List.filter_filterMap], ?_⟩
    intro id f hf
    obtain ⟨hfound, _⟩ := Option.filter_eq_some_iff.mp hf
    simpa using List.find?_some hfound
  | relational r =>
    obtain ⟨found, _, h⟩ := bind_eq_ok h
    obtain rfl := Except.ok.inj h
    refine ⟨fun id => found.find? (·.id == id), by rw [eraseDups_of_nodup hids], ?_⟩
    intro id f hf
    simpa using List.find?_some hf

/-- A fact that is looked up by its id is one of the facts of the connection. -/
lemma factsOf_subset {s : Store} {connectionId : Int} {ids : List Int} {fs all : List Fact}
    (h : s.factsOf connectionId ids = .ok fs) (hall : s.factsOn connectionId = .ok all) :
    ∀ f ∈ fs, f ∈ all := by
  cases s with
  | memory m =>
    obtain rfl := Except.ok.inj h
    obtain rfl := Except.ok.inj hall
    intro f hf
    obtain ⟨hf, hconnection⟩ := List.mem_filter.mp hf
    obtain ⟨id, _, hfound⟩ := List.mem_filterMap.mp hf
    exact List.mem_filter.mpr ⟨List.mem_of_find?_eq_some hfound, hconnection⟩
  | relational r =>
    obtain ⟨found, hfound, h⟩ := bind_eq_ok h
    obtain rfl := Except.ok.inj h
    intro f hf
    obtain ⟨id, _, hf⟩ := List.mem_filterMap.mp hf
    obtain ⟨row, hrow, hread⟩ := (mem_mapM_iff hfound).mp (List.mem_of_find?_eq_some hf)
    refine (mem_mapM_iff hall).mpr ⟨row, ?_, hread⟩
    simp only [sortById, List.mem_mergeSort, List.mem_filter, Bool.and_eq_true] at hrow ⊢
    exact ⟨hrow.1, hrow.2.1⟩

/-! ### Stores that agree -/

/-- Two stores answer lookups on a connection alike, but for mappings. -/
structure Agree (connectionId : Int) (s s' : Store) : Prop where
  factsOn : s'.factsOn connectionId = s.factsOn connectionId
  factsOf : ∀ ids : List Int, ids.Nodup →
    s'.factsOf connectionId ids = s.factsOf connectionId ids
  dimension? : s'.dimension? connectionId = s.dimension? connectionId
  kpi? : s'.kpi? connectionId = s.kpi? connectionId

/-! ### Ids -/

/-- The facts of a store have different ids, and so do its dimensions. -/
def Keyed : Store → Prop
  | memory m => (m.facts.map (·.id)).Nodup ∧ (m.dimensions.map (·.id)).Nodup
  | relational r => (r.facts.map (·.id)).Nodup ∧ (r.dimensions.map (·.id)).Nodup

lemma nodup_sortById {α : Type} {id : α → Int} {rows : List α} (h : (rows.map id).Nodup)
    (p : α → Bool) : ((sortById id (rows.filter p)).map id).Nodup :=
  ((List.mergeSort_perm _ _).map id).nodup_iff.mpr ((List.filter_sublist.map id).nodup h)

lemma Keyed.facts {s : Store} (h : s.Keyed) {connectionId : Int} {all : List Fact}
    (hall : s.factsOn connectionId = .ok all) : (all.map (·.id)).Nodup := by
  cases s with
  | memory m =>
    obtain rfl := Except.ok.inj hall
    exact (List.filter_sublist.map _).nodup h.1
  | relational r =>
    have hids : all.map (·.id) =
        (sortById (·.id) (r.facts.filter (·.connectionId == connectionId))).map (·.id) := by
      symm
      refine List.forall₂_eq_eq_eq ▸ ?_
      rw [List.forall₂_map_left_iff, List.forall₂_map_right_iff]
      exact (mapM_eq_ok hall).imp fun _ _ hread => (FactRow.read_ok hread).1.symm
    rw [hids]
    exact nodup_sortById h.1 _

lemma Keyed.dimensions {s : Store} (h : s.Keyed) (connectionId : Int) :
    ((s.dimensionsOn connectionId).map (·.id)).Nodup := by
  cases s with
  | memory m => exact (List.filter_sublist.map _).nodup h.2
  | relational r => exact nodup_sortById h.2 _

end MetricLayer.Store
