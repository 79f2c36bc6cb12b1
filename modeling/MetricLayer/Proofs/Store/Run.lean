import MetricLayer.Proofs.Store.Batch
import MetricLayer.Proofs.Store.Distinct

/-!
# Runs of batches

Batches of mappings are given to a store one after another, and some of them are refused. However
that goes, a batch only adds mappings after those that are stored, under higher numbers and for
pairs that are not mapped. So the mappings of a store stay in the order of their numbers, and a
search lists the wanted ones in that order.
-/
namespace MetricLayer.Store

/-- The store after batches of mappings, whether or not they are refused. -/
def addBatches (s : Store) (batches : List (List Mapping)) : Store :=
  batches.foldl (fun s xs => (s.addMappings xs).2) s

/-- The numbers of the stored mappings, in the order in which they were stored. -/
def numbers (s : Store) : List Int := s.storedMappings.filterMap (·.id)

/-- The numbers from one on. -/
def countedFromOne (count : Nat) : List Int := (List.range count).map fun i : Nat => (i : Int) + 1

/-- The mappings of a store are in order: no pair is mapped twice, every mapping has a number, and
the numbers ascend. In memory they are counted from one. -/
structure InOrder (s : Store) : Prop where
  pairs : (s.storedMappings.map Mapping.pair).Nodup
  numbered : s.storedMappings.map (·.id) = s.numbers.map some
  ascending : s.numbers.Pairwise (· < ·)
  counted : ∀ m, s = memory m → s.numbers = countedFromOne m.mappings.length

lemma ids_numbered (n : Int) (xs : List Mapping) :
    (numbered n xs).map (·.id) = (List.range xs.length).map fun i : Nat => some (n + i) := by
  induction xs generalizing n with
  | nil => rfl
  | cons x xs ih =>
    rw [Store.numbered, List.map_cons, ih, List.length_cons, List.range_succ_eq_map, List.map_cons,
      List.map_map]
    congr 1
    · simp [underNumber]
    · refine List.map_congr_left fun i _ => ?_
      have hnext : n + 1 + (i : Int) = n + ((i + 1 : Nat) : Int) := by omega
      exact congrArg some hnext

lemma numbers_withMore (s : Store) (n : Int) (xs : List Mapping) :
    (s.withMore (numbered n xs)).numbers =
      s.numbers ++ (List.range xs.length).map fun i : Nat => n + i := by
  have hnew : (numbered n xs).filterMap (·.id) = (List.range xs.length).map fun i : Nat => n + i :=
    calc (numbered n xs).filterMap (·.id)
        = ((numbered n xs).map (·.id)).filterMap id := by rw [List.filterMap_map]; rfl
      _ = ((List.range xs.length).map fun i : Nat => some (n + i)).filterMap id := by
        rw [ids_numbered]
      _ = (List.range xs.length).map fun i : Nat => n + i := by
        rw [List.filterMap_map, ← List.filterMap_eq_map]; rfl
  rw [numbers, storedMappings_withMore, List.filterMap_append, hnew, numbers]

/-- The next number is above those of mappings that are in order. -/
lemma InOrder.lt_nextNumber {s : Store} (h : s.InOrder) : ∀ i ∈ s.numbers, i < s.nextNumber := by
  intro i hi
  cases s with
  | memory m =>
    rw [h.counted m rfl, countedFromOne, List.mem_map] at hi
    obtain ⟨k, hk, rfl⟩ := hi
    have hlt := List.mem_range.mp hk
    simp only [nextNumber]
    omega
  | relational r => exact lt_nextId hi

/-- Mappings that fit stay in order under the next numbers. -/
lemma InOrder.withMore {s : Store} (h : s.InOrder) {xs : List Mapping}
    (hfits : ¬ Clash s.taken xs) : (s.withMore (Store.numbered s.nextNumber xs)).InOrder where
  pairs := by
    rw [storedMappings_withMore, List.map_append, pairs_numbered]
    exact nodup_of_fits h.pairs hfits
  numbered := by
    rw [numbers_withMore, storedMappings_withMore, List.map_append, List.map_append, h.numbered,
      ids_numbered, List.map_map]
    rfl
  ascending := by
    rw [numbers_withMore]
    refine List.pairwise_append.mpr ⟨h.ascending, ?_, ?_⟩
    · exact List.pairwise_map.mpr (List.pairwise_lt_range.imp fun hlt => by omega)
    · intro i hi j hj
      obtain ⟨k, _, rfl⟩ := List.mem_map.mp hj
      have hlt := h.lt_nextNumber i hi
      omega
  counted := by
    intro m hm
    cases s with
    | relational r => cases hm
    | memory m' =>
      obtain rfl := memory.inj hm
      rw [numbers_withMore, h.counted m' rfl, countedFromOne, countedFromOne, Memory.withMore,
        List.length_append, length_numbered, List.range_add, List.map_append, List.map_map]
      congr 1
      refine List.map_congr_left fun i _ => ?_
      show (m'.mappings.length : Int) + 1 + (i : Int) = ((m'.mappings.length + i : Nat) : Int) + 1
      omega

/-- A batch leaves the mappings of a store in order, and those that were stored before it as they
were. -/
lemma InOrder.addMappings {s : Store} (h : s.InOrder) (xs : List Mapping) :
    (s.addMappings xs).2.InOrder ∧ s.storedMappings <+: (s.addMappings xs).2.storedMappings := by
  obtain ⟨ys, hys, hfits⟩ := exists_numbered s xs
  rw [hys, storedMappings_withMore]
  exact ⟨h.withMore hfits, List.prefix_append _ _⟩

lemma InOrder.addBatches {s : Store} (h : s.InOrder) (batches : List (List Mapping)) :
    (s.addBatches batches).InOrder ∧
      s.storedMappings <+: (s.addBatches batches).storedMappings := by
  induction batches generalizing s with
  | nil => exact ⟨h, List.prefix_refl _⟩
  | cons xs batches ih =>
    obtain ⟨hstep, hkept⟩ := h.addMappings xs
    obtain ⟨hrest, hlater⟩ := ih hstep
    exact ⟨hrest, hkept.trans hlater⟩

/-- A store without mappings has them in order. -/
lemma inOrder_of_no_mappings {s : Store} (h : s.storedMappings = []) : s.InOrder where
  pairs := by rw [h]; exact List.nodup_nil
  numbered := by rw [numbers, h]; rfl
  ascending := by rw [numbers, h]; exact .nil
  counted := by
    rintro m rfl
    have hnone : m.mappings = [] := h
    rw [numbers, h, hnone]
    rfl

/-- Mappings that are in order are listed in the order in which they were stored. -/
lemma InOrder.mappings_eq {s : Store} (h : s.InOrder) : s.mappings = s.storedMappings := by
  cases s with
  | memory m => rfl
  | relational r =>
    have hids : (r.mappings.map (·.id)).Pairwise fun a b => a.getD 0 < b.getD 0 := by
      have hnumbered : r.mappings.map (·.id) = (relational r).numbers.map some := h.numbered
      rw [hnumbered, List.pairwise_map]
      exact h.ascending
    have hrows : r.mappings.Pairwise fun a b => a.id.getD 0 < b.id.getD 0 :=
      (List.pairwise_map (f := fun x : Mapping => x.id)).mp hids
    exact List.mergeSort_of_pairwise (hrows.imp fun hlt => by simpa using Int.le_of_lt hlt)

lemma isWanted_iff {factIds : List Int} {dimensionIds : Option (List Int)} {x : Mapping} :
    x.isWanted factIds dimensionIds = true ↔
      x.factId ∈ factIds ∧ ∀ ids ∈ dimensionIds, x.dimensionId ∈ ids := by
  cases dimensionIds <;> simp [Mapping.isWanted]

/-- Whichever batches are given to a store without mappings, its mappings are in order, those that
are stored stay as they are under any further batches, and a search lists exactly the stored
mappings of wanted facts and, if they are given, wanted dimensions, each in its place. -/
theorem run_inOrder {s : Store} (h : s.storedMappings = []) (batches : List (List Mapping)) :
    (s.addBatches batches).InOrder ∧
    (∀ more, (s.addBatches batches).storedMappings <+:
      (s.addBatches (batches ++ more)).storedMappings) ∧
    ∀ factIds dimensionIds, (s.addBatches batches).mappingsOf factIds dimensionIds =
      (s.addBatches batches).storedMappings.filter fun x =>
        x.factId ∈ factIds ∧ ∀ ids ∈ dimensionIds, x.dimensionId ∈ ids := by
  have horder := ((inOrder_of_no_mappings h).addBatches batches).1
  refine ⟨horder, fun more => ?_, fun factIds dimensionIds => ?_⟩
  · have hrun : s.addBatches (batches ++ more) = (s.addBatches batches).addBatches more :=
      List.foldl_append
    rw [hrun]
    exact (horder.addBatches more).2
  · rw [mappingsOf_eq, horder.mappings_eq]
    exact List.filter_congr fun x _ => Bool.eq_iff_iff.mpr (by simpa using isWanted_iff)

theorem run_inOrder_revenue :
    (Store.memory {}).storedMappings = [] ∧ (Store.relational {}).storedMappings = [] ∧
    ((Store.memory {}).addBatches [[regionMapping, regionMapping], [statusMapping]]).InOrder ∧
    ((Store.relational {}).addBatches [[regionMapping, regionMapping], [statusMapping]]).InOrder ∧
    ((Store.memory {}).addBatches [[regionMapping, regionMapping], [statusMapping]]).mappingsOf
      [1, 1] none = [underNumber 1 regionMapping, underNumber 2 statusMapping] ∧
    ((Store.relational {}).addBatches [[regionMapping, regionMapping], [statusMapping]]).mappingsOf
      [1, 1] none = [underNumber 1 statusMapping] := by
  obtain ⟨hmemory, -, hlisted⟩ := run_inOrder (s := .memory {}) rfl
    [[regionMapping, regionMapping], [statusMapping]]
  obtain ⟨htables, -, hrows⟩ := run_inOrder (s := .relational {}) rfl
    [[regionMapping, regionMapping], [statusMapping]]
  refine ⟨rfl, rfl, hmemory, htables, ?_, ?_⟩
  · rw [hlisted]
    rfl
  · rw [hrows]
    rfl

end MetricLayer.Store
