import MetricLayer.Proofs.Store.Built

/-!
# Batches of mappings

A batch of mappings is stored under new numbers, unless a pair in it is mapped already or occurs
twice. Tables then stay as they were; a store in memory keeps the mappings in front of the first
one that clashes.
-/
namespace MetricLayer.Store
open Plan

/-! ### Numbers of built stores -/

/-- Every stored mapping has a number, and the next one is above it. -/
def Numbered (s : Store) : Prop :=
  ∀ x ∈ s.storedMappings, ∃ n, x.id = some n ∧ n < s.nextNumber

/-- In tables, the next number is above every number there is. -/
lemma numbered_relational {r : Relational} (h : ∀ x ∈ r.mappings, ∃ n, x.id = some n) :
    (relational r).Numbered := by
  intro x hx
  obtain ⟨n, hn⟩ := h x hx
  exact ⟨n, hn, lt_nextId (List.mem_filterMap.mpr ⟨x, hx, hn⟩)⟩

lemma Numbered.withMore {s : Store} (h : s.Numbered) (xs : List Mapping) :
    (s.withMore (numbered s.nextNumber xs)).Numbered := by
  cases s with
  | memory m =>
    intro x hx
    have hnext : (Store.withMore (memory m) (numbered (nextNumber (memory m)) xs)).nextNumber =
        (memory m).nextNumber + xs.length := by
      simp only [nextNumber, Store.withMore, Memory.withMore, List.length_append, length_numbered]
      omega
    rw [hnext]
    rw [storedMappings_withMore] at hx
    rcases List.mem_append.mp hx with hold | hnew
    · obtain ⟨n, hn, hlt⟩ := h x hold
      exact ⟨n, hn, by omega⟩
    · obtain ⟨n, hn, _, hlt⟩ := id_of_mem_numbered hnew
      exact ⟨n, hn, hlt⟩
  | relational r =>
    refine numbered_relational fun x hx => ?_
    rcases List.mem_append.mp hx with hold | hnew
    · obtain ⟨n, hn, _⟩ := h x hold
      exact ⟨n, hn⟩
    · obtain ⟨n, hn, _⟩ := id_of_mem_numbered hnew
      exact ⟨n, hn⟩

lemma Inserted.numbered {r r' : Relational} (h : Inserted r r')
    (hr : (relational r).Numbered) : (relational r').Numbered := by
  refine numbered_relational fun x hx => ?_
  have hold : ∀ y ∈ r.mappings, ∃ n, y.id = some n := fun y hy =>
    (hr y hy).imp fun _ => And.left
  cases h with
  | mapping hn =>
    rcases List.mem_append.mp hx with hmem | hnew
    · exact hold x hmem
    · exact ⟨_, List.mem_singleton.mp hnew ▸ hn⟩
  | _ => exact hold x hx

lemma Built.numbered {s : Store} (h : s.Built) : s.Numbered := by
  induction h with
  | memory | relational => intro x hx; cases hx
  | connection _ _ ih | fact _ _ ih | dimension _ _ ih | kpi _ _ ih | report _ _ ih => exact ih
  | row htable hrow _ ih => exact (inserted_of_row htable hrow).numbered ih
  | @mappings s xs _ ih =>
    obtain ⟨ys, hys, _⟩ := exists_numbered s xs
    rw [hys]
    exact ih.withMore ys

/-! ### What a store lists after a batch -/

/-- Items whose keys are above all others come last in order. -/
lemma sortById_append {α : Type} {key : α → Int} {xs ys : List α}
    (habove : ∀ x ∈ xs, ∀ y ∈ ys, key x < key y) (hys : ys.Pairwise fun a b => key a < key b) :
    sortById key (xs ++ ys) = sortById key xs ++ ys := by
  have hall := stablyOrdered_mergeSort key (xs ++ ys)
  have hsome := stablyOrdered_mergeSort key xs
  refine eq_of_ordered hall.ordered ?_ fun k => ?_
  · refine List.pairwise_append.mpr ⟨hsome.ordered, hys.imp Int.le_of_lt, ?_⟩
    intro x hx y hy
    exact Int.le_of_lt (habove x (List.mem_mergeSort.mp hx) y hy)
  · calc (sortById key (xs ++ ys)).filter (key · == k)
        = (xs ++ ys).filter (key · == k) := hall.stable k
      _ = xs.filter (key · == k) ++ ys.filter (key · == k) := List.filter_append _ _
      _ = (sortById key xs).filter (key · == k) ++ ys.filter (key · == k) := by
        rw [sortById, hsome.stable k]
      _ = (sortById key xs ++ ys).filter (key · == k) := (List.filter_append _ _).symm

/-- Mappings under the next numbers are listed after those before them. -/
lemma mappings_withMore {s : Store} (h : s.Numbered) (xs : List Mapping) :
    (s.withMore (numbered s.nextNumber xs)).mappings =
      s.mappings ++ numbered s.nextNumber xs := by
  cases s with
  | memory m => rfl
  | relational r =>
    refine sortById_append (fun x hx y hy => ?_) ascending_numbered
    obtain ⟨n, hn, hlt⟩ := h x hx
    obtain ⟨k, hk, hle, _⟩ := id_of_mem_numbered hy
    rw [hn, hk]
    exact Int.lt_of_lt_of_le hlt hle

/-- A store lists more mappings than another one, after those of the other and under new
numbers. Its other records are the same. -/
structure Adds (s : Store) (ys : List Mapping) (s' : Store) : Prop where
  listed : ∀ factIds dimensionIds, s'.mappingsOf factIds dimensionIds =
    s.mappingsOf factIds dimensionIds ++ ys.filter (Mapping.isWanted factIds dimensionIds)
  fresh : ∀ y ∈ ys, ∃ n, y.id = some n ∧ ∀ m ∈ s.mappings, m.id ≠ some n
  apart : (ys.map (·.id)).Nodup
  records : ∃ ms, s' = s.withMappings ms

lemma adds_numbered {s : Store} (h : s.Numbered) (xs : List Mapping) :
    Adds s (numbered s.nextNumber xs) (s.withMore (numbered s.nextNumber xs)) where
  listed factIds dimensionIds := by
    rw [mappingsOf_eq, mappingsOf_eq, mappings_withMore h, List.filter_append]
  fresh y hy := by
    obtain ⟨n, hn, hle, _⟩ := id_of_mem_numbered hy
    refine ⟨n, hn, fun m hm heq => ?_⟩
    obtain ⟨k, hk, hlt⟩ := h m (s.mappings_perm.mem_iff.mp hm)
    rw [hk, Option.some.injEq] at heq
    omega
  apart := nodup_id_numbered
  records := ⟨_, withMore_eq _ _⟩

/-- The pairs of the mappings that a store lists. -/
def mappedPairs (s : Store) : List (Int × Int) := s.mappings.map Mapping.pair

lemma mem_taken_iff (s : Store) (p : Int × Int) : p ∈ s.taken ↔ p ∈ s.mappedPairs :=
  (s.mappings_perm.map _).mem_iff.symm

/-- Whether a batch that clashes leaves a store as it was. Tables always stay as they were; in
memory, the pair of the first mapping has to be taken. -/
def StaysAsItWas (s : Store) (xs : List Mapping) : Prop :=
  match s with
  | memory _ => ∀ x ∈ xs.head?, x.pair ∈ s.mappedPairs
  | relational _ => True

lemma leftBehind_eq_nil_iff {s : Store} {xs : List Mapping} :
    s.leftBehind xs = [] ↔ s.StaysAsItWas xs := by
  cases s with
  | relational r => simp [leftBehind, StaysAsItWas]
  | memory m =>
    cases xs with
    | nil => simp [leftBehind, StaysAsItWas, fitting]
    | cons x xs =>
      simp only [leftBehind, StaysAsItWas, List.head?_cons, Option.mem_some_iff, forall_eq',
        ← mem_taken_iff]
      by_cases h : x.pair ∈ (memory m).taken
      · simp [fitting_cons_of_mem h, h]
      · simp [fitting_cons_of_notMem h, h]

/-- More mappings show in what a store lists. -/
lemma Adds.same_iff {s s' : Store} {ys : List Mapping} (h : Adds s ys s') :
    (∀ factIds dimensionIds, s'.mappingsOf factIds dimensionIds =
      s.mappingsOf factIds dimensionIds) ↔ ys = [] := by
  refine ⟨fun hsame => ?_, fun hnil factIds dimensionIds => ?_⟩
  · cases ys with
    | nil => rfl
    | cons y ys =>
      have hall := (h.listed [y.factId] none).symm.trans (hsame [y.factId] none)
      have hnone := List.append_right_eq_self.mp hall
      have hwanted : Mapping.isWanted [y.factId] none y = true := by simp [Mapping.isWanted]
      rw [List.filter_cons_of_pos hwanted] at hnone
      cases hnone
  · rw [h.listed, hnil, List.filter_nil, List.append_nil]

/-- A batch without a clash is stored and returned as a whole, under new numbers. One that
clashes is refused: tables then list what they listed before, and a store in memory goes on to
list the mappings in front of the first that clashes. -/
theorem batch_stored_or_refused {s : Store} (hs : s.Built) (xs : List Mapping) :
    (¬ Clash s.mappedPairs xs → ∃ ys s', s.addMappings xs = (.ok ys, s') ∧
      ys.map Mapping.unnumbered = xs.map Mapping.unnumbered ∧ Adds s ys s') ∧
    (Clash s.mappedPairs xs → ∃ e ys s', s.addMappings xs = (.error e, s') ∧
      ys.map Mapping.unnumbered = (s.leftBehind xs).map Mapping.unnumbered ∧ Adds s ys s' ∧
      ((∀ factIds dimensionIds, s'.mappingsOf factIds dimensionIds =
        s.mappingsOf factIds dimensionIds) ↔ s.StaysAsItWas xs)) := by
  rw [Clash.congr fun p => (mem_taken_iff s p).symm]
  refine ⟨fun hfits => ?_, fun hclash => ?_⟩
  · exact ⟨_, _, addMappings_of_fits hfits, unnumbered_numbered _ _, adds_numbered hs.numbered xs⟩
  · obtain ⟨e, he⟩ := addMappings_of_clash hclash
    have hadds := adds_numbered hs.numbered (s.leftBehind xs)
    refine ⟨e, _, _, he, unnumbered_numbered _ _, hadds, hadds.same_iff.trans ?_⟩
    rw [← leftBehind_eq_nil_iff, ← List.length_eq_zero_iff, length_numbered,
      List.length_eq_zero_iff]

/-- The revenue of a region. -/
def regionMapping : Mapping := ⟨none, 1, 1, "regions", "region_id", "id"⟩

/-- The revenue of a status. -/
def statusMapping : Mapping := ⟨none, 1, 2, "states", "status_id", "id"⟩

theorem batch_stored_or_refused_revenue :
    (Store.memory {}).Built ∧
    (∃ ys s', (Store.memory {}).addMappings [regionMapping, statusMapping] = (.ok ys, s') ∧
      ys.map Mapping.unnumbered = [regionMapping, statusMapping].map Mapping.unnumbered ∧
      Adds (.memory {}) ys s') ∧
    ∃ e ys s', (Store.memory {}).addMappings [regionMapping, statusMapping, regionMapping] =
        (.error e, s') ∧
      ys.map Mapping.unnumbered = [regionMapping, statusMapping].map Mapping.unnumbered ∧
      Adds (.memory {}) ys s' := by
  have hempty := batch_stored_or_refused .memory
  obtain ⟨e, ys, s', hrefused, hleft, hadds, _⟩ :=
    (hempty [regionMapping, statusMapping, regionMapping]).2 (by decide)
  exact ⟨.memory, (hempty [regionMapping, statusMapping]).1 (by decide), e, ys, s', hrefused,
    hleft, hadds⟩

/-- A batch that is refused is listed in part. -/
theorem refused_batch_listed :
    (Store.memory {}).Built ∧
    Clash (Store.memory {}).mappedPairs [regionMapping, statusMapping, regionMapping] ∧
    ∃ e s', (Store.memory {}).addMappings [regionMapping, statusMapping, regionMapping] =
        (.error e, s') ∧
      s'.mappingsOf [1] none ≠ (Store.memory {}).mappingsOf [1] none :=
  ⟨.memory, by decide, _, _, rfl, by decide⟩

end MetricLayer.Store
