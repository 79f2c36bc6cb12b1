import MetricLayer.Proofs.Join.Resolution
import MetricLayer.Proofs.Plan.Report
import MetricLayer.Store.Basic

/-!
# Mappings of a store

A store lists its mappings in one order, and a search for some of them keeps that order. So the
mapping that counts for a pair does not depend on which other pairs are asked for.
-/
namespace MetricLayer
open Plan

/-! ### Stable orders -/

/-- Two lists in the order of a key are equal if they list the same items under every key. -/
lemma eq_of_ordered {α : Type} {key : α → Int} {ys zs : List α}
    (hys : ys.Pairwise fun a b => key a ≤ key b) (hzs : zs.Pairwise fun a b => key a ≤ key b)
    (h : ∀ k, ys.filter (key · == k) = zs.filter (key · == k)) : ys = zs := by
  induction ys generalizing zs with
  | nil =>
    cases zs with
    | nil => rfl
    | cons z zs => simpa using h (key z)
  | cons y ys ih =>
    cases zs with
    | nil => simpa using h (key y)
    | cons z zs =>
      obtain ⟨hy, hyrest⟩ := List.pairwise_cons.mp hys
      obtain ⟨hz, hzrest⟩ := List.pairwise_cons.mp hzs
      have hmem : ∀ x, x ∈ y :: ys ↔ x ∈ z :: zs := by
        intro x
        have hfilter := congrArg (x ∈ ·) (h (key x))
        simpa only [List.mem_filter, beq_self_eq_true, and_true, eq_iff_iff] using hfilter
      -- Each head is among the items of the other list, so neither comes before the other.
      have hle : key y ≤ key z := by
        rcases List.mem_cons.mp ((hmem z).mpr List.mem_cons_self) with rfl | hin
        · exact Int.le_refl _
        · exact hy z hin
      have hge : key z ≤ key y := by
        rcases List.mem_cons.mp ((hmem y).mp List.mem_cons_self) with rfl | hin
        · exact Int.le_refl _
        · exact hz y hin
      have hkey : key z = key y := Int.le_antisymm hge hle
      have hhead := h (key y)
      simp only [List.filter_cons, hkey, beq_self_eq_true, if_true, List.cons.injEq] at hhead
      obtain ⟨rfl, _⟩ := hhead
      refine congrArg (y :: ·) (ih hyrest hzrest fun k => ?_)
      have htail := h k
      simp only [List.filter_cons] at htail
      split at htail
      · exact (List.cons.inj htail).2
      · exact htail

/-- Items are selected before or after they are put in order. -/
lemma sortById_filter {α : Type} (id : α → Int) (p : α → Bool) (rows : List α) :
    sortById id (rows.filter p) = (sortById id rows).filter p := by
  have hall := stablyOrdered_mergeSort id rows
  have hsome := stablyOrdered_mergeSort id (rows.filter p)
  refine eq_of_ordered hsome.ordered (hall.ordered.filter p) fun k => ?_
  calc (sortById id (rows.filter p)).filter (id · == k)
      = (rows.filter p).filter (id · == k) := hsome.stable k
    _ = (rows.filter (id · == k)).filter p := List.filter_comm _ _ _
    _ = ((sortById id rows).filter (id · == k)).filter p := by rw [sortById, hall.stable k]
    _ = ((sortById id rows).filter p).filter (id · == k) := List.filter_comm _ _ _

/-! ### The mapping of a pair -/

/-- A mapping without its id. -/
def Mapping.unnumbered (m : Mapping) : Mapping := { m with id := none }

namespace Join

/-- Whether a mapping is for a pair. -/
def isFor (factId dimensionId : Int) (m : Mapping) : Bool :=
  m.factId == factId && m.dimensionId == dimensionId

lemma mappingOf_eq (mappings : List Mapping) (factId dimensionId : Int) :
    mappingOf mappings factId dimensionId =
      (mappings.filter (isFor factId dimensionId)).getLast? := by
  rw [← List.head?_reverse, ← List.filter_reverse, List.head?_filter]
  rfl

/-- A pair is joined by its mapping, whatever the id of that is. -/
lemma pair_unnumbered {mappings : List Mapping} {columns : Columns} {f : Fact} {d : Dimension}
    {m : Mapping}
    (h : (mappingOf mappings f.id d.id).map Mapping.unnumbered = some m.unnumbered) :
    pair mappings columns f d = .joined (some (mappedEdge f m)) m.joinTable d.column := by
  obtain ⟨m', hm', heq⟩ := Option.map_eq_some_iff.mp h
  simp only [Mapping.unnumbered, Mapping.mk.injEq, true_and] at heq
  obtain ⟨_, _, htable, hfact, hdimension⟩ := heq
  rw [pair_mapped hm', mappedEdge, mappedEdge, htable, hfact, hdimension]

/-- A pair with the same mapping up to its id has the same outcome. -/
lemma pair_congr_unnumbered {mappings mappings' : List Mapping} {columns : Columns} {f : Fact}
    {d : Dimension} (h : (mappingOf mappings' f.id d.id).map Mapping.unnumbered =
      (mappingOf mappings f.id d.id).map Mapping.unnumbered) :
    pair mappings' columns f d = pair mappings columns f d ∧
      needsColumns mappings' f d = needsColumns mappings f d := by
  cases hm : mappingOf mappings f.id d.id with
  | none =>
    rw [hm] at h
    have hnone := Option.map_eq_none_iff.mp h
    refine ⟨pair_congr (hnone.trans hm.symm) fun _ => ⟨rfl, rfl⟩, ?_⟩
    rw [needsColumns, needsColumns, hnone, hm]
  | some m =>
    rw [hm] at h
    obtain ⟨m', hm', _⟩ := Option.map_eq_some_iff.mp h
    refine ⟨(pair_unnumbered h).trans (pair_mapped hm).symm, ?_⟩
    rw [needsColumns, needsColumns, hm, hm']
    rfl

end Join

namespace Store
open Join

/-- The mappings of a store in the order in which it lists them. -/
def mappings : Store → List Mapping
  | memory m => m.mappings
  | relational r => sortById (fun x => x.id.getD 0) r.mappings

lemma mappingsOf_eq (s : Store) (factIds : List Int) (dimensionIds : Option (List Int)) :
    s.mappingsOf factIds dimensionIds =
      s.mappings.filter (Mapping.isWanted factIds dimensionIds) := by
  cases s with
  | memory m => rfl
  | relational r => exact sortById_filter _ _ _

/-- The mapping of a pair is the same whatever else is asked for. -/
theorem mappingOf_mappingsOf (s : Store) {factIds dimensionIds : List Int}
    {factId dimensionId : Int} (hf : factId ∈ factIds) (hd : dimensionId ∈ dimensionIds) :
    mappingOf (s.mappingsOf factIds (some dimensionIds)) factId dimensionId =
      mappingOf s.mappings factId dimensionId := by
  have hwanted : ∀ m ∈ s.mappings, (isFor factId dimensionId m &&
      Mapping.isWanted factIds (some dimensionIds) m) = isFor factId dimensionId m := by
    intro m _
    cases hfor : isFor factId dimensionId m with
    | false => rfl
    | true =>
      simp only [isFor, Bool.and_eq_true, beq_iff_eq] at hfor
      simp [Mapping.isWanted, hfor.1, hfor.2, hf, hd]
  rw [mappingOf_eq, mappingOf_eq, mappingsOf_eq, List.filter_filter,
    List.filter_congr hwanted]

/-! ### Adding mappings -/

/-- A store with other mappings, in the order in which they were stored. -/
def withMappings (s : Store) (ms : List Mapping) : Store :=
  match s with
  | memory m => memory { m with mappings := ms }
  | relational r => relational { r with mappings := ms }

lemma withMappings_withMappings (s : Store) (ms ns : List Mapping) :
    (s.withMappings ms).withMappings ns = s.withMappings ns := by
  cases s <;> rfl

lemma isFor_eq (factId dimensionId : Int) (m : Mapping) :
    isFor factId dimensionId m = (m.pair == (factId, dimensionId)) := rfl

lemma any_pair_eq_false {mappings : List Mapping} {x : Mapping}
    (h : ∀ m ∈ mappings, m.pair ≠ x.pair) : mappings.any (·.pair == x.pair) = false := by
  simpa using h

/-- A mapping is stored for its pair, and the other pairs stay as they are. -/
structure Stores (s : Store) (x y : Mapping) (s' : Store) : Prop where
  result : s.addMappings [x] = (.ok [y], s')
  stored : { y with id := x.id } = x
  records : ∃ ms, s' = s.withMappings ms
  mapping : ∀ factId dimensionId, mappingOf s'.mappings factId dimensionId =
    if isFor factId dimensionId x then some y else mappingOf s.mappings factId dimensionId

lemma Stores.isFor_eq {s s' : Store} {x y : Mapping} (h : Stores s x y s')
    (factId dimensionId : Int) : isFor factId dimensionId y = isFor factId dimensionId x := by
  conv_rhs => rw [← h.stored]
  rfl

lemma stores_memory {m : Memory} {x : Mapping} (h : ∀ y ∈ m.mappings, y.pair ≠ x.pair) :
    ∃ y s', Stores (.memory m) x y s' := by
  have hany := any_pair_eq_false h
  refine ⟨{ x with id := some (m.mappings.length + 1) }, (Store.memory m).withMappings
    (m.mappings ++ [{ x with id := some (m.mappings.length + 1) }]), ?_, rfl, ⟨_, rfl⟩, ?_⟩
  · simp only [Store.addMappings, Memory.addMappings, Memory.addMapping, hany]
    rfl
  · intro factId dimensionId
    simp only [Store.mappings, withMappings, mappingOf_eq, List.filter_append,
      List.filter_singleton]
    have hsame : isFor factId dimensionId { x with id := some (m.mappings.length + 1) } =
      isFor factId dimensionId x := rfl
    cases hfor : isFor factId dimensionId x <;> simp [hsame, hfor]

lemma stores_relational {r : Relational} {x : Mapping} (h : ∀ y ∈ r.mappings, y.pair ≠ x.pair) :
    ∃ y s', Stores (.relational r) x y s' := by
  have hany := any_pair_eq_false h
  have hlast : ∀ ms factId dimensionId,
      mappingOf ((Store.relational r).withMappings ms).mappings factId dimensionId =
        (sortById (fun m : Mapping => m.id.getD 0)
          (ms.filter (isFor factId dimensionId))).getLast? := by
    intro ms factId dimensionId
    rw [sortById_filter, mappingOf_eq]
    rfl
  refine ⟨{ x with id := some (Relational.nextId (r.mappings.filterMap (·.id))) },
    (Store.relational r).withMappings (r.mappings ++
      [{ x with id := some (Relational.nextId (r.mappings.filterMap (·.id))) }]), ?_, rfl,
    ⟨_, rfl⟩, ?_⟩
  · simp only [Store.addMappings, Relational.addMappings, Relational.storeAll,
      Relational.addMapping, hany, Bool.false_eq_true, if_false, bind, Except.bind]
    rfl
  · intro factId dimensionId
    have hold : mappingOf (Store.relational r).mappings factId dimensionId = _ :=
      hlast r.mappings factId dimensionId
    have hsame : ∀ id, isFor factId dimensionId { x with id := id } =
      isFor factId dimensionId x := fun _ => rfl
    rw [hlast, hold, List.filter_append, List.filter_singleton, hsame]
    cases hfor : isFor factId dimensionId x with
    | false => simp
    | true =>
      -- There is no other mapping of the pair, so the place of the new one does not matter.
      have hnone : r.mappings.filter (isFor factId dimensionId) = [] := by
        rw [List.filter_eq_nil_iff]
        intro y hy
        rw [isFor_eq, beq_iff_eq] at hfor ⊢
        rw [← hfor]
        exact h y hy
      simp [hnone, sortById]

/-- A mapping is stored if its pair is not mapped yet. -/
theorem exists_stores {s : Store} {x : Mapping}
    (h : mappingOf s.mappings x.factId x.dimensionId = none) : ∃ y s', Stores s x y s' := by
  rw [mappingOf_eq_none_iff] at h
  cases s with
  | memory m => exact stores_memory h
  | relational r => exact stores_relational fun y hy => h y (List.mem_mergeSort.mpr hy)

/-- Mappings that are stored one after another can be stored at once. -/
lemma addMappings_cons {s s₁ s₂ : Store} {x y : Mapping} {xs ys : List Mapping}
    (h : s.addMappings [x] = (.ok [y], s₁)) (hrest : s₁.addMappings xs = (.ok ys, s₂)) :
    s.addMappings (x :: xs) = (.ok (y :: ys), s₂) := by
  cases s with
  | memory m =>
    simp only [Store.addMappings, Memory.addMappings] at h ⊢
    cases hx : m.addMapping x with
    | error e => simp [hx] at h
    | ok stored =>
      simp only [hx, Except.map, Prod.mk.injEq, Except.ok.injEq, List.cons.injEq, and_true] at h
      obtain ⟨rfl, rfl⟩ := h
      simp only [Store.addMappings] at hrest
      obtain ⟨hresult, rfl⟩ := Prod.mk.inj hrest
      simp only [hresult]
      rfl
  | relational r =>
    simp only [Store.addMappings, Relational.addMappings, Relational.storeAll] at h ⊢
    cases hx : r.addMapping x with
    | error e => simp [hx, bind, Except.bind] at h
    | ok stored =>
      simp only [hx, bind, Except.bind, pure, Except.pure, Prod.mk.injEq, Except.ok.injEq,
        List.cons.injEq, and_true] at h
      obtain ⟨rfl, rfl⟩ := h
      simp only [Store.addMappings, Relational.addMappings] at hrest
      cases hxs : stored.2.storeAll xs with
      | error e => simp [hxs] at hrest
      | ok rest =>
        simp only [hxs, Prod.mk.injEq, Except.ok.injEq] at hrest
        obtain ⟨rfl, rfl⟩ := hrest
        simp only [hxs, bind, Except.bind]
        rfl

/-- Mappings are stored one after another, each for a pair that is not mapped before it. -/
inductive StoresAll : Store → List Mapping → List Mapping → Store → Prop
  | nil {s : Store} : StoresAll s [] [] s
  | cons {s s₁ s₂ : Store} {x y : Mapping} {xs ys : List Mapping} :
    Stores s x y s₁ → StoresAll s₁ xs ys s₂ → StoresAll s (x :: xs) (y :: ys) s₂

namespace StoresAll

variable {s s' : Store} {xs ys : List Mapping}

theorem result (h : StoresAll s xs ys s') : s.addMappings xs = (.ok ys, s') := by
  induction h with
  | @nil s => cases s <;> rfl
  | cons h _ ih => exact addMappings_cons h.result ih

theorem records (h : StoresAll s xs ys s') : ∃ ms, s' = s.withMappings ms := by
  induction h with
  | @nil s =>
    cases s with
    | memory m => exact ⟨m.mappings, rfl⟩
    | relational r => exact ⟨r.mappings, rfl⟩
  | cons h _ ih =>
    obtain ⟨ms, rfl⟩ := h.records
    obtain ⟨ns, rfl⟩ := ih
    exact ⟨ns, withMappings_withMappings _ _ _⟩

lemma mappingOf_cons (x : Mapping) (xs : List Mapping) (factId dimensionId : Int) :
    mappingOf (x :: xs) factId dimensionId = (mappingOf xs factId dimensionId).or
      (if isFor factId dimensionId x then some x else none) := by
  unfold mappingOf
  rw [List.reverse_cons, List.find?_append, List.find?_singleton]
  rfl

/-- A pair has the mapping that was stored for it, or else the one it had before. -/
theorem mapping (h : StoresAll s xs ys s') (factId dimensionId : Int) :
    mappingOf s'.mappings factId dimensionId =
      (mappingOf ys factId dimensionId).or (mappingOf s.mappings factId dimensionId) := by
  induction h with
  | nil => rfl
  | @cons s s₁ s₂ x y xs ys h _ ih =>
    rw [ih, h.mapping, mappingOf_cons, h.isFor_eq, Option.or_assoc]
    cases isFor factId dimensionId x <;> simp

/-- What is stored for a pair is what was asked for, up to its id. -/
theorem stored (h : StoresAll s xs ys s') (factId dimensionId : Int) :
    (mappingOf ys factId dimensionId).map Mapping.unnumbered =
      (mappingOf xs factId dimensionId).map Mapping.unnumbered := by
  induction h with
  | nil => rfl
  | @cons s s₁ s₂ x y xs ys h _ ih =>
    have hsame : y.unnumbered = x.unnumbered := by
      conv_rhs => rw [← h.stored]
      rfl
    rw [mappingOf_cons, mappingOf_cons, Option.map_or, Option.map_or, ih, h.isFor_eq]
    cases isFor factId dimensionId x <;> simp [hsame]

end StoresAll

end Store
end MetricLayer
