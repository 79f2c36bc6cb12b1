import MetricLayer.Proofs.Store.Mappings

/-!
# Mappings that are stored

Mappings are stored one by one under the next numbers, up to the first whose pair is taken. Where
one is refused, tables go back to what they were, and a store in memory keeps those before it.
-/
namespace MetricLayer

/-- A memory with more mappings. -/
def Memory.withMore (m : Memory) (ys : List Mapping) : Memory :=
  { m with mappings := m.mappings ++ ys }

/-- Tables with more mappings. -/
def Relational.withMore (r : Relational) (ys : List Mapping) : Relational :=
  { r with mappings := r.mappings ++ ys }

lemma Memory.withMore_nil (m : Memory) : m.withMore [] = m := by
  rw [withMore, List.append_nil]

lemma Relational.withMore_nil (r : Relational) : r.withMore [] = r := by
  rw [withMore, List.append_nil]

lemma Memory.withMore_append (m : Memory) (ys zs : List Mapping) :
    (m.withMore ys).withMore zs = m.withMore (ys ++ zs) :=
  congrArg (fun ms => { m with mappings := ms }) (List.append_assoc _ _ _)

lemma Relational.withMore_append (r : Relational) (ys zs : List Mapping) :
    (r.withMore ys).withMore zs = r.withMore (ys ++ zs) :=
  congrArg (fun ms => { r with mappings := ms }) (List.append_assoc _ _ _)

namespace Store

/-- The mappings of a store in the order in which they were stored. -/
def storedMappings : Store → List Mapping
  | memory m => m.mappings
  | relational r => r.mappings

lemma mappings_perm (s : Store) : s.mappings.Perm s.storedMappings := by
  cases s with
  | memory m => exact .refl _
  | relational r => exact List.mergeSort_perm _ _

/-! ### What fits beside the pairs that are taken -/

/-- A batch clashes if one of its pairs is taken, or if two of its pairs are the same. -/
def Clash (taken : List (Int × Int)) (xs : List Mapping) : Prop :=
  (∃ x ∈ xs, x.pair ∈ taken) ∨ ¬ (xs.map Mapping.pair).Nodup

instance (taken : List (Int × Int)) (xs : List Mapping) : Decidable (Clash taken xs) :=
  inferInstanceAs (Decidable ((∃ x ∈ xs, x.pair ∈ taken) ∨ ¬ (xs.map Mapping.pair).Nodup))

/-- The mappings in front of the first whose pair is taken. Each takes its own pair. -/
def fitting (taken : List (Int × Int)) : List Mapping → List Mapping
  | [] => []
  | x :: xs => if x.pair ∈ taken then [] else x :: fitting (taken ++ [x.pair]) xs

section
variable {taken : List (Int × Int)} {x : Mapping} {xs : List Mapping}

lemma fitting_cons_of_mem (h : x.pair ∈ taken) : fitting taken (x :: xs) = [] := if_pos h

lemma fitting_cons_of_notMem (h : x.pair ∉ taken) :
    fitting taken (x :: xs) = x :: fitting (taken ++ [x.pair]) xs := if_neg h

lemma clash_cons_of_notMem (h : x.pair ∉ taken) :
    Clash taken (x :: xs) ↔ Clash (taken ++ [x.pair]) xs := by
  have hlater : (∃ y ∈ x :: xs, y.pair ∈ taken) ↔ ∃ y ∈ xs, y.pair ∈ taken := by
    simp [h]
  have htaken : (∃ y ∈ xs, y.pair ∈ taken ++ [x.pair]) ↔
      (∃ y ∈ xs, y.pair ∈ taken) ∨ x.pair ∈ xs.map Mapping.pair := by
    simp only [List.mem_append, List.mem_singleton, List.mem_map, and_or_left, exists_or]
  rw [Clash, Clash, hlater, htaken, List.map_cons, List.nodup_cons, not_and_or, not_not,
    or_assoc]

lemma not_clash_nil : ¬ Clash taken [] := by
  simp [Clash]

lemma clash_cons_of_mem (h : x.pair ∈ taken) : Clash taken (x :: xs) :=
  .inl ⟨x, List.mem_cons_self, h⟩

/-- All of a batch fits exactly if it does not clash. -/
lemma fitting_eq_self_iff : fitting taken xs = xs ↔ ¬ Clash taken xs := by
  induction xs generalizing taken with
  | nil => exact ⟨fun _ => not_clash_nil, fun _ => rfl⟩
  | cons x xs ih =>
    by_cases h : x.pair ∈ taken
    · simp [fitting_cons_of_mem h, clash_cons_of_mem h]
    · rw [fitting_cons_of_notMem h, clash_cons_of_notMem h, ← ih, List.cons_inj_right]

/-- What is in front of the first clash does not clash. -/
lemma not_clash_fitting : ¬ Clash taken (fitting taken xs) := by
  induction xs generalizing taken with
  | nil => exact not_clash_nil
  | cons x xs ih =>
    by_cases h : x.pair ∈ taken
    · rw [fitting_cons_of_mem h]
      exact not_clash_nil
    · rw [fitting_cons_of_notMem h, clash_cons_of_notMem h]
      exact ih

/-- Pairs that do not clash are told apart from those taken and from each other. -/
lemma nodup_of_fits (htaken : taken.Nodup) (h : ¬ Clash taken xs) :
    (taken ++ xs.map Mapping.pair).Nodup := by
  obtain ⟨hfree, hpairs⟩ := not_or.mp h
  refine List.nodup_append.mpr ⟨htaken, not_not.mp hpairs, fun p hp q hq heq => ?_⟩
  obtain ⟨x, hx, rfl⟩ := List.mem_map.mp hq
  exact hfree ⟨x, hx, heq ▸ hp⟩

lemma Clash.congr {taken' : List (Int × Int)} (h : ∀ p, p ∈ taken ↔ p ∈ taken') :
    Clash taken xs ↔ Clash taken' xs := by
  simp only [Clash, h]

end

/-! ### Numbers -/

/-- A mapping under a number. -/
def underNumber (n : Int) (x : Mapping) : Mapping := { x with id := some n }

/-- Mappings under the numbers from `n` on. -/
def numbered (n : Int) : List Mapping → List Mapping
  | [] => []
  | x :: xs => underNumber n x :: numbered (n + 1) xs

section
variable (n : Int) (xs : List Mapping)

lemma unnumbered_numbered : (numbered n xs).map Mapping.unnumbered =
    xs.map Mapping.unnumbered := by
  induction xs generalizing n with
  | nil => rfl
  | cons x xs ih => rw [numbered, List.map_cons, List.map_cons, ih]; rfl

lemma pairs_numbered : (numbered n xs).map Mapping.pair = xs.map Mapping.pair := by
  have hsame := congrArg (List.map Mapping.pair) (unnumbered_numbered n xs)
  rwa [List.map_map, List.map_map] at hsame

lemma length_numbered : (numbered n xs).length = xs.length := by
  rw [← List.length_map (f := Mapping.unnumbered), unnumbered_numbered, List.length_map]

variable {n xs}

lemma id_of_mem_numbered {y : Mapping} (h : y ∈ numbered n xs) :
    ∃ k, y.id = some k ∧ n ≤ k ∧ k < n + xs.length := by
  induction xs generalizing n with
  | nil => cases h
  | cons x xs ih =>
    rw [List.length_cons]
    rcases List.mem_cons.mp h with rfl | h
    · exact ⟨n, rfl, by omega, by omega⟩
    · obtain ⟨k, hk, hle, hlt⟩ := ih h
      exact ⟨k, hk, by omega, by omega⟩

lemma ascending_numbered :
    (numbered n xs).Pairwise fun a b => a.id.getD 0 < b.id.getD 0 := by
  induction xs generalizing n with
  | nil => exact .nil
  | cons x xs ih =>
    refine List.pairwise_cons.mpr ⟨fun y hy => ?_, ih⟩
    obtain ⟨k, hk, hle, _⟩ := id_of_mem_numbered hy
    have hlt : n < k := by omega
    rwa [hk]

lemma nodup_id_numbered : ((numbered n xs).map (·.id)).Nodup :=
  List.pairwise_map.mpr (ascending_numbered.imp fun hlt heq => by simp [heq] at hlt)

end

/-- The number of the next mapping. -/
def nextNumber : Store → Int
  | memory m => m.mappings.length + 1
  | relational r => Relational.nextId (r.mappings.filterMap (·.id))

lemma lt_nextId {ids : List Int} {i : Int} (h : i ∈ ids) : i < Relational.nextId ids := by
  cases ids with
  | nil => cases h
  | cons id ids =>
    have hmax : (id :: ids).max? = some (ids.foldl max id) := List.max?_cons'
    have hle := (List.max?_eq_some_iff.mp hmax).2 i h
    rw [Relational.nextId]
    omega

lemma nextId_concat (ids : List Int) :
    Relational.nextId (ids ++ [Relational.nextId ids]) = Relational.nextId ids + 1 := by
  cases ids with
  | nil => rfl
  | cons id ids =>
    simp only [List.cons_append, Relational.nextId, List.foldl_append, List.foldl_cons,
      List.foldl_nil]
    omega

/-! ### Stores with more mappings -/

/-- The store with more mappings after those it has. -/
def withMore : Store → List Mapping → Store
  | memory m, ys => memory (m.withMore ys)
  | relational r, ys => relational (r.withMore ys)

/-- The pairs that are mapped. -/
def taken (s : Store) : List (Int × Int) := s.storedMappings.map Mapping.pair

section
variable (s : Store) (x : Mapping) (ys zs : List Mapping)

lemma withMore_nil : s.withMore [] = s := by
  cases s with
  | memory m => exact congrArg memory m.withMore_nil
  | relational r => exact congrArg relational r.withMore_nil

lemma withMore_append : (s.withMore ys).withMore zs = s.withMore (ys ++ zs) := by
  cases s with
  | memory m => exact congrArg memory (m.withMore_append ys zs)
  | relational r => exact congrArg relational (r.withMore_append ys zs)

lemma withMore_eq : s.withMore ys = s.withMappings (s.storedMappings ++ ys) := by
  cases s <;> rfl

lemma storedMappings_withMore : (s.withMore ys).storedMappings = s.storedMappings ++ ys := by
  cases s <;> rfl

/-- Mappings take their pairs. -/
lemma taken_withMore : (s.withMore ys).taken = s.taken ++ ys.map Mapping.pair := by
  rw [taken, storedMappings_withMore, List.map_append, taken]

/-- A mapping takes one number. -/
lemma nextNumber_withMore :
    (s.withMore [underNumber s.nextNumber x]).nextNumber = s.nextNumber + 1 := by
  cases s with
  | memory m => simp [nextNumber, withMore, Memory.withMore]
  | relational r =>
    simp only [nextNumber, withMore, Relational.withMore, underNumber, List.filterMap_append,
      List.filterMap_cons, List.filterMap_nil]
    exact nextId_concat _

end

/-! ### Batches in memory -/

section
variable {m : Memory} {x : Mapping} {xs : List Mapping}

lemma memory_refuses (h : x.pair ∈ (memory m).taken) :
    ∃ e, m.addMappings (x :: xs) = (.error e, m) := by
  have hany : m.mappings.any (·.pair == x.pair) = true := by
    simpa [taken, storedMappings] using h
  simp only [Memory.addMappings, Memory.addMapping, hany, if_true]
  exact ⟨_, rfl⟩

lemma memory_stores (h : x.pair ∉ (memory m).taken) {y : Mapping}
    (hy : y = underNumber (memory m).nextNumber x) :
    m.addMappings (x :: xs) =
      (((m.withMore [y]).addMappings xs).1.map (y :: ·), ((m.withMore [y]).addMappings xs).2) := by
  have hany : m.mappings.any (·.pair == x.pair) = false := by
    simpa [taken, storedMappings] using h
  subst hy
  simp only [Memory.addMappings, Memory.addMapping, hany, Bool.false_eq_true, if_false]
  rfl

/-- A batch leaves in memory what fits, and it is stored exactly if that is all of it. -/
lemma memory_addMappings (m : Memory) (xs : List Mapping) :
    memory (m.addMappings xs).2 = (memory m).withMore
      (numbered (memory m).nextNumber (fitting (memory m).taken xs)) ∧
    (¬ Clash (memory m).taken xs →
      (m.addMappings xs).1 = .ok (numbered (memory m).nextNumber xs)) ∧
    (Clash (memory m).taken xs → ∃ e, (m.addMappings xs).1 = .error e) := by
  induction xs generalizing m with
  | nil => exact ⟨(withMore_nil _).symm, fun _ => rfl, fun h => absurd h not_clash_nil⟩
  | cons x xs ih =>
    by_cases h : x.pair ∈ (memory m).taken
    · obtain ⟨e, he⟩ : ∃ e, m.addMappings (x :: xs) = (.error e, m) := memory_refuses h
      rw [he, fitting_cons_of_mem h]
      exact ⟨(withMore_nil _).symm, fun hfit => absurd (clash_cons_of_mem h) hfit,
        fun _ => ⟨e, rfl⟩⟩
    · generalize hy : underNumber (memory m).nextNumber x = y
      have htaken : (memory (m.withMore [y])).taken = (memory m).taken ++ [x.pair] :=
        hy ▸ taken_withMore (memory m) [underNumber _ x]
      have hnext : (memory (m.withMore [y])).nextNumber = (memory m).nextNumber + 1 :=
        hy ▸ nextNumber_withMore (memory m) x
      obtain ⟨hstore, hok, herror⟩ := ih (m.withMore [y])
      rw [htaken, hnext] at hstore
      rw [memory_stores h hy.symm, clash_cons_of_notMem h, fitting_cons_of_notMem h, numbered, hy,
        numbered, hy, ← htaken]
      refine ⟨?_, fun hfit => ?_, fun hclash => ?_⟩
      · rw [hstore, ← htaken]
        exact withMore_append (memory m) [y] _
      · rw [hok hfit, hnext]
        rfl
      · obtain ⟨e, he⟩ := herror hclash
        exact ⟨e, by rw [he]; rfl⟩

end

/-! ### Batches in tables -/

section
variable {r : Relational} {x : Mapping} {xs : List Mapping}

lemma relational_refuses (h : x.pair ∈ (relational r).taken) :
    ∃ e, r.storeAll (x :: xs) = .error e := by
  have hany : r.mappings.any (·.pair == x.pair) = true := by
    simpa [taken, storedMappings] using h
  simp only [Relational.storeAll, Relational.addMapping, hany, if_true]
  exact ⟨_, rfl⟩

lemma relational_stores (h : x.pair ∉ (relational r).taken) {y : Mapping}
    (hy : y = underNumber (relational r).nextNumber x) :
    r.storeAll (x :: xs) =
      ((r.withMore [y]).storeAll xs).map fun stored => (y :: stored.1, stored.2) := by
  have hany : r.mappings.any (·.pair == x.pair) = false := by
    simpa [taken, storedMappings] using h
  subst hy
  simp only [Relational.storeAll, Relational.addMapping, hany, Bool.false_eq_true, if_false]
  rfl

/-- A batch is stored in tables exactly if all of it fits. -/
lemma storeAll_eq (r : Relational) (xs : List Mapping) :
    (¬ Clash (relational r).taken xs → r.storeAll xs =
      .ok (numbered (relational r).nextNumber xs,
        r.withMore (numbered (relational r).nextNumber xs))) ∧
    (Clash (relational r).taken xs → ∃ e, r.storeAll xs = .error e) := by
  induction xs generalizing r with
  | nil =>
    refine ⟨fun _ => ?_, fun h => absurd h not_clash_nil⟩
    rw [numbered, Relational.withMore_nil]
    rfl
  | cons x xs ih =>
    by_cases h : x.pair ∈ (relational r).taken
    · exact ⟨fun hfit => absurd (clash_cons_of_mem h) hfit, fun _ => relational_refuses h⟩
    · generalize hy : underNumber (relational r).nextNumber x = y
      have htaken : (relational (r.withMore [y])).taken = (relational r).taken ++ [x.pair] :=
        hy ▸ taken_withMore (relational r) [underNumber _ x]
      have hnext : (relational (r.withMore [y])).nextNumber = (relational r).nextNumber + 1 :=
        hy ▸ nextNumber_withMore (relational r) x
      obtain ⟨hok, herror⟩ := ih (r.withMore [y])
      rw [relational_stores h hy.symm, clash_cons_of_notMem h, numbered, hy, ← htaken]
      refine ⟨fun hfit => ?_, fun hclash => ?_⟩
      · rw [hok hfit, hnext, Relational.withMore_append]
        rfl
      · obtain ⟨e, he⟩ := herror hclash
        exact ⟨e, by rw [he]; rfl⟩

end

/-! ### Batches in both kinds of store -/

/-- What a batch that is refused leaves in a store. -/
def leftBehind (s : Store) (xs : List Mapping) : List Mapping :=
  match s with
  | memory _ => fitting s.taken xs
  | relational _ => []

/-- A batch that fits is stored under the next numbers. -/
lemma addMappings_of_fits {s : Store} {xs : List Mapping} (h : ¬ Clash s.taken xs) :
    s.addMappings xs =
      (.ok (numbered s.nextNumber xs), s.withMore (numbered s.nextNumber xs)) := by
  cases s with
  | memory m =>
    obtain ⟨hstore, hok, _⟩ := memory_addMappings m xs
    rw [fitting_eq_self_iff.mpr h] at hstore
    exact Prod.ext (hok h) hstore
  | relational r =>
    simp only [addMappings, Relational.addMappings, (storeAll_eq r xs).1 h]
    rfl

/-- A batch that clashes is refused. -/
lemma addMappings_of_clash {s : Store} {xs : List Mapping} (h : Clash s.taken xs) :
    ∃ e, s.addMappings xs = (.error e, s.withMore (numbered s.nextNumber (s.leftBehind xs))) := by
  cases s with
  | memory m =>
    obtain ⟨hstore, _, herror⟩ := memory_addMappings m xs
    obtain ⟨e, he⟩ := herror h
    exact ⟨e, Prod.ext he hstore⟩
  | relational r =>
    obtain ⟨e, he⟩ := (storeAll_eq r xs).2 h
    refine ⟨e, ?_⟩
    simp only [addMappings, Relational.addMappings, he]
    exact congrArg (Prod.mk _) (withMore_nil _).symm

/-- Whatever becomes of a batch, a store has some more mappings under the next numbers. -/
lemma exists_numbered (s : Store) (xs : List Mapping) :
    ∃ ys, (s.addMappings xs).2 = s.withMore (numbered s.nextNumber ys) ∧ ¬ Clash s.taken ys := by
  by_cases h : Clash s.taken xs
  · obtain ⟨e, he⟩ := addMappings_of_clash h
    refine ⟨s.leftBehind xs, by rw [he], ?_⟩
    cases s with
    | memory m => exact not_clash_fitting
    | relational r => exact not_clash_nil
  · exact ⟨xs, by rw [addMappings_of_fits h], h⟩

/-- Mappings that are stored one after another are under the next numbers, after those before
them. -/
lemma StoresAll.numbered {s s' : Store} {xs ys : List Mapping} (h : StoresAll s xs ys s') :
    ys = Store.numbered s.nextNumber xs ∧ s' = s.withMore ys := by
  have hresult := h.result
  by_cases hclash : Clash s.taken xs
  · obtain ⟨e, he⟩ := addMappings_of_clash hclash
    rw [he] at hresult
    cases hresult
  · rw [addMappings_of_fits hclash] at hresult
    obtain ⟨hys, hstore⟩ := Prod.mk.inj hresult
    obtain rfl := Except.ok.inj hys
    exact ⟨rfl, hstore.symm⟩

lemma StoresAll.unnumbered {s s' : Store} {xs ys : List Mapping} (h : StoresAll s xs ys s') :
    ys.map Mapping.unnumbered = xs.map Mapping.unnumbered := by
  rw [h.numbered.1, unnumbered_numbered]

end Store
end MetricLayer
