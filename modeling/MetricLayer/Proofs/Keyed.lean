import Mathlib.Data.List.Induction
import Mathlib.Data.List.Nodup
import Mathlib.Data.List.Perm.Basic

/-!
# Lists told apart by a key

Where the items of a list have different keys, a search by key finds the item of that key,
from whichever end it starts.
-/
namespace MetricLayer

variable {α β : Type} [BEq β] [LawfulBEq β] {key : α → β} {xs : List α}

lemma find?_key_iff (h : (xs.map key).Nodup) {k : β} {x : α} :
    xs.find? (key · == k) = some x ↔ x ∈ xs ∧ key x = k := by
  constructor
  · intro hx
    exact ⟨List.mem_of_find?_eq_some hx, by simpa using List.find?_some hx⟩
  · rintro ⟨hx, rfl⟩
    obtain ⟨y, hy⟩ := Option.isSome_iff_exists.mp
      (List.find?_isSome (p := (key · == key x)).mpr ⟨x, hx, by simp⟩)
    have hkey : key y = key x := by simpa using List.find?_some hy
    rw [hy, List.inj_on_of_nodup_map h (List.mem_of_find?_eq_some hy) hx hkey]

lemma find?_reverse_key_iff (h : (xs.map key).Nodup) {k : β} {x : α} :
    xs.reverse.find? (key · == k) = some x ↔ x ∈ xs ∧ key x = k := by
  rw [find?_key_iff (by simpa using h), List.mem_reverse]

/-- Among some of the items, a search finds what it finds among all of them, or nothing. -/
lemma find?_filter_key (h : (xs.map key).Nodup) (p : α → Bool) (k : β) :
    (xs.filter p).find? (key · == k) = (xs.find? (key · == k)).filter p := by
  ext x
  have hsome : ((xs.filter p).map key).Nodup := (List.filter_sublist.map key).nodup h
  rw [find?_key_iff hsome, Option.filter_eq_some_iff, find?_key_iff h, List.mem_filter]
  tauto

/-- A search by key finds the same item in any order of the items. -/
lemma find?_key_perm {ys : List α} (h : (xs.map key).Nodup) (hperm : ys.Perm xs) (k : β) :
    ys.find? (key · == k) = xs.find? (key · == k) := by
  ext x
  rw [find?_key_iff h, find?_key_iff ((hperm.map key).nodup_iff.mpr h), hperm.mem_iff]

omit [BEq β] [LawfulBEq β] in
/-- An item with a new key keeps the keys apart. -/
lemma nodup_map_concat (h : (xs.map key).Nodup) {x : α} (hx : key x ∉ xs.map key) :
    ((xs ++ [x]).map key).Nodup := by
  rw [List.map_append, List.map_singleton, ← List.concat_eq_append]
  exact h.concat hx

/-- The only item of its key. -/
lemma filter_key_eq_singleton (h : (xs.map key).Nodup) {x : α} (hx : x ∈ xs) :
    xs.filter (key · == key x) = [x] := by
  induction xs with
  | nil => cases hx
  | cons y ys ih =>
    obtain ⟨hy, hys⟩ := List.nodup_cons.mp h
    rcases List.mem_cons.mp hx with rfl | hx
    · have hrest : ys.filter (key · == key x) = [] := by
        rw [List.filter_eq_nil_iff]
        intro z hz heq
        exact hy (eq_of_beq heq ▸ List.mem_map_of_mem hz)
      rw [List.filter_cons_of_pos (by simp), hrest]
    · have hne : key y ≠ key x := fun heq => hy (heq ▸ List.mem_map_of_mem hx)
      rw [List.filter_cons_of_neg (by simpa using hne), ih hys hx]

omit [BEq β] [LawfulBEq β] in
/-- Looked up one after another, items have the keys they were looked up by, if none is
missing. -/
lemma map_key_filterMap {look : β → Option α} (hkey : ∀ k x, look k = some x → key x = k)
    {ks : List β} (hfound : ∀ k ∈ ks, k ∈ (ks.filterMap look).map key) :
    (ks.filterMap look).map key = ks := by
  have hsome : ∀ k ∈ ks, (look k).map key = some k := by
    intro k hk
    obtain ⟨x, hx, rfl⟩ := List.mem_map.mp (hfound k hk)
    obtain ⟨j, _, hj⟩ := List.mem_filterMap.mp hx
    rw [hkey j x hj, hj, Option.map_some, hkey j x hj]
  rw [List.map_filterMap, List.filterMap_congr hsome, List.filterMap_some]

omit [BEq β] [LawfulBEq β] in
/-- Items that are made from the items of a list under the same keys have keys of that list, in
its order. -/
lemma map_key_filterMap_sublist {γ : Type} {make : α → Option γ} {key' : γ → β}
    (hkey : ∀ x y, make x = some y → key' y = key x) :
    ((xs.filterMap make).map key').Sublist (xs.map key) := by
  induction xs with
  | nil => exact .slnil
  | cons x xs ih =>
    rw [List.filterMap_cons, List.map_cons]
    cases hx : make x with
    | none => exact ih.cons _
    | some y =>
      rw [List.map_cons, hkey x y hx]
      exact ih.cons_cons _

omit [BEq β] [LawfulBEq β] in
/-- One more item is kept unless an item that is kept is the same. -/
lemma eraseDupsBy_concat (same : α → α → Bool) (xs : List α) (x : α) :
    (xs ++ [x]).eraseDupsBy same =
      if (xs.eraseDupsBy same).any (same x) then xs.eraseDupsBy same
      else xs.eraseDupsBy same ++ [x] := by
  -- The loop collects in reverse what it keeps.
  have hloop : ∀ (xs kept : List α), List.eraseDupsBy.loop same (xs ++ [x]) kept =
      if (List.eraseDupsBy.loop same xs kept).any (same x) then List.eraseDupsBy.loop same xs kept
      else List.eraseDupsBy.loop same xs kept ++ [x] := by
    intro xs
    induction xs with
    | nil =>
      intro kept
      cases h : kept.any (same x) <;> simp [List.eraseDupsBy.loop, h]
    | cons y xs ih =>
      intro kept
      cases h : kept.any (same y) <;> simp [List.eraseDupsBy.loop, h, ih]
  exact hloop xs []

omit [LawfulBEq β] in
/-- Items added at the end unless their key is there are the first items of their keys. -/
lemma foldl_keepFirst (key : α → β) (xs : List α) :
    xs.foldl (fun kept x => if kept.any (key · == key x) then kept else kept ++ [x]) [] =
      xs.eraseDupsBy fun x y => key y == key x := by
  induction xs using List.reverseRecOn with
  | nil => rfl
  | append_singleton xs x ih => rw [List.foldl_concat, ih, eraseDupsBy_concat]

omit [BEq β] [LawfulBEq β] in
lemma eraseDupsBy_sublist (r : α → α → Bool) :
    ∀ xs : List α, (xs.eraseDupsBy r).Sublist xs
  | [] => .slnil
  | x :: xs => by
    rw [List.eraseDupsBy_cons]
    exact ((eraseDupsBy_sublist r _).trans List.filter_sublist).cons_cons x
termination_by xs => xs.length
decreasing_by
  have := List.length_filter_le (fun y => decide (r y x = false)) xs
  simp only [List.length_cons]
  omega

/-! ### Lists without repetitions -/

lemma filter_eraseDups (p : β → Bool) :
    ∀ ks : List β, ks.eraseDups.filter p = (ks.filter p).eraseDups
  | [] => rfl
  | k :: ks => by
    have ih := filter_eraseDups p (ks.filter fun j => !j == k)
    rw [List.filter_comm] at ih
    rw [List.eraseDups_cons, List.filter_cons, List.filter_cons]
    cases hk : p k with
    | true => simp only [if_true, List.eraseDups_cons, ih]
    | false =>
      have hdrop : (ks.filter p).filter (fun j => !j == k) = ks.filter p := by
        rw [List.filter_eq_self]
        intro j hj
        have hne : j ≠ k := fun heq => by simp [heq, hk] at hj
        simpa using hne
      simpa [hdrop] using ih
termination_by ks => ks.length
decreasing_by
  have := List.length_filter_le (fun j => !j == k) ks
  simp only [List.length_cons]
  omega

/-- The first item with a property stays the first. -/
lemma find?_eraseDups (p : β → Bool) (ks : List β) : ks.eraseDups.find? p = ks.find? p := by
  rw [← List.head?_filter, ← List.head?_filter, filter_eraseDups]
  cases ks.filter p with
  | nil => rfl
  | cons k js => rw [List.eraseDups_cons, List.head?_cons, List.head?_cons]

/-- What is there already is not added again. -/
lemma eraseDups_append_cons {ks js : List β} {k : β} (h : k ∈ ks) :
    (ks ++ k :: js).eraseDups = (ks ++ js).eraseDups := by
  rw [List.eraseDups_append, List.eraseDups_append, List.cons_removeAll, if_neg]
  simpa using h

lemma nodup_eraseDups : ∀ ks : List β, ks.eraseDups.Nodup
  | [] => List.nodup_nil
  | k :: ks => by
    rw [List.eraseDups_cons, List.nodup_cons]
    exact ⟨by simp, nodup_eraseDups _⟩
termination_by ks => ks.length
decreasing_by
  have := List.length_filter_le (fun j => !j == k) ks
  simp only [List.length_cons]
  omega

lemma eraseDups_of_nodup {ks : List β} (h : ks.Nodup) : ks.eraseDups = ks := by
  induction ks with
  | nil => rfl
  | cons k ks ih =>
    obtain ⟨hk, hks⟩ := List.nodup_cons.mp h
    have hdrop : ks.filter (fun j => !j == k) = ks := by
      rw [List.filter_eq_self]
      intro j hj
      have hne : j ≠ k := fun heq => hk (heq ▸ hj)
      simpa using hne
    rw [List.eraseDups_cons, hdrop, ih hks]

end MetricLayer
