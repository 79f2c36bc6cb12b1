import Mathlib.Data.List.Nodup
import Mathlib.Data.List.Perm.Subperm
import Mathlib.Data.Nat.Init
import MetricLayer.Plan.Label

/-!
# Free labels

Labels with different numbers differ, so that the taken labels cannot take more numbers than
they are many: the search for a label beside them ends, and what is chosen is none of them.
-/
namespace MetricLayer

lemma numberedLabel_inj {base : String} {m n : Nat}
    (h : numberedLabel base m = numberedLabel base n) : m = n := by
  have hlist := congrArg String.toList h
  simp only [numberedLabel, String.toList_append, List.append_cancel_left_eq] at hlist
  have hdigits : Nat.toDigits 10 m = Nat.toDigits 10 n := by simpa [Nat.toList_repr] using hlist
  rw [← Nat.ofDigitChars_ten_toDigits (n := m), hdigits, Nat.ofDigitChars_ten_toDigits]

/-- A number is found within the fuel before which all are taken, and if there is fuel left it
is free itself. -/
lemma freeNumbered_eq (taken : List String) (base : String) (n fuel : Nat) :
    ∃ k, n ≤ k ∧ k ≤ n + fuel ∧ freeNumbered taken base n fuel = numberedLabel base k ∧
      (∀ j, n ≤ j → j < k → numberedLabel base j ∈ taken) ∧
      (k < n + fuel → numberedLabel base k ∉ taken) := by
  induction fuel generalizing n with
  | zero => exact ⟨n, by omega, by omega, rfl, by omega, by omega⟩
  | succ fuel ih =>
    by_cases htaken : numberedLabel base n ∈ taken
    · obtain ⟨k, hnk, hk, heq, hbefore, hfree⟩ := ih (n + 1)
      refine ⟨k, by omega, by omega, ?_, ?_, fun h => hfree (by omega)⟩
      · simpa [freeNumbered, htaken] using heq
      · intro j hnj hjk
        rcases Nat.eq_or_lt_of_le hnj with rfl | hlt
        · exact htaken
        · exact hbefore j (by omega) hjk
    · refine ⟨n, by omega, by omega, ?_, by omega, fun _ => htaken⟩
      simp [freeNumbered, htaken]

/-- Numbers that are all taken are no more than the taken labels. -/
lemma count_le_of_numbered {taken : List String} {base : String} {n count : Nat}
    (h : ∀ j, n ≤ j → j < n + count → numberedLabel base j ∈ taken) :
    count ≤ taken.length := by
  have hnodup : ((List.range' n count).map (numberedLabel base)).Nodup :=
    List.Nodup.map (fun _ _ => numberedLabel_inj) List.nodup_range'
  have hsubset : (List.range' n count).map (numberedLabel base) ⊆ taken := by
    intro label hlabel
    obtain ⟨j, hj, rfl⟩ := List.mem_map.mp hlabel
    obtain ⟨hnj, hjn⟩ := List.mem_range'_1.mp hj
    exact h j hnj hjn
  simpa using (hnodup.subperm hsubset).length_le

/-- The number found is the least from `n` on whose label is free. -/
theorem freeNumbered_least (taken : List String) (base : String) (n : Nat) :
    ∃ k, n ≤ k ∧ freeNumbered taken base n taken.length = numberedLabel base k ∧
      numberedLabel base k ∉ taken ∧
      ∀ j, n ≤ j → j < k → numberedLabel base j ∈ taken := by
  obtain ⟨k, hnk, hk, heq, hbefore, hfree⟩ := freeNumbered_eq taken base n taken.length
  refine ⟨k, hnk, heq, ?_, hbefore⟩
  rcases Nat.lt_or_eq_of_le hk with hlt | rfl
  · exact hfree hlt
  · -- All of the numbers tried are taken, and the one after them would be one too many.
    intro htaken
    have hall : ∀ j, n ≤ j → j < n + (taken.length + 1) → numberedLabel base j ∈ taken := by
      intro j hnj hj
      rcases Nat.lt_succ_iff_lt_or_eq.mp hj with hlt | rfl
      · exact hbefore j hnj hlt
      · exact htaken
    have := count_le_of_numbered hall
    omega

/-- Beside any labels a free one is chosen, if there is a candidate. -/
lemma uniqueLabel_of_ne_nil (taken : List String) {candidates : List String}
    (h : candidates ≠ []) : ∃ label, uniqueLabel taken candidates = some label ∧ label ∉ taken := by
  unfold uniqueLabel
  split
  · rename_i c hc
    exact ⟨c, rfl, by simpa using List.find?_some hc⟩
  · obtain ⟨k, _, heq, hfree, _⟩ := freeNumbered_least taken (candidates.getLast h) 2
    exact ⟨_, by rw [List.getLast?_eq_some_getLast h, Option.map_some], heq ▸ hfree⟩

/-! ### The search -/

/-- A search that tries one number after another as long as their labels are taken: from the
first number it ends at the second. -/
inductive SearchEnds (taken : List String) (base : String) : Nat → Nat → Prop
  | free {n : Nat} (h : numberedLabel base n ∉ taken) : SearchEnds taken base n n
  | next {n k : Nat} (h : numberedLabel base n ∈ taken) (hrest : SearchEnds taken base (n + 1) k) :
    SearchEnds taken base n k

section
variable {taken : List String} {base : String} {n k : Nat}

/-- A search ends at the first free label. -/
lemma searchEnds_of_least (hnk : n ≤ k) (hfree : numberedLabel base k ∉ taken)
    (hbefore : ∀ j, n ≤ j → j < k → numberedLabel base j ∈ taken) :
    SearchEnds taken base n k := by
  induction hnk using Nat.decreasingInduction with
  | self => exact .free hfree
  | of_succ n hlt ih =>
    have hrest : SearchEnds taken base (n + 1) k :=
      ih fun j hj hjk => hbefore j (by omega) hjk
    exact .next (hbefore n (Nat.le_refl n) hlt) hrest

lemma SearchEnds.least (h : SearchEnds taken base n k) :
    n ≤ k ∧ numberedLabel base k ∉ taken ∧
      ∀ j, n ≤ j → j < k → numberedLabel base j ∈ taken := by
  induction h with
  | free hfree => exact ⟨Nat.le_refl _, hfree, by omega⟩
  | @next n k htaken _ ih =>
    obtain ⟨hle, hfree, hbefore⟩ := ih
    refine ⟨by omega, hfree, fun j hnj hjk => ?_⟩
    rcases Nat.eq_or_lt_of_le hnj with rfl | hlt
    · exact htaken
    · exact hbefore j hlt hjk

/-- A search tries no more labels than are taken, and one. -/
lemma SearchEnds.le (h : SearchEnds taken base n k) : k ≤ n + taken.length := by
  obtain ⟨hle, _, hbefore⟩ := h.least
  have hcount : k - n ≤ taken.length :=
    count_le_of_numbered fun j hnj hj => hbefore j hnj (by omega)
  omega

end

/-- From every number the search ends, and the number found is its end. -/
theorem searchEnds_freeNumbered (taken : List String) (base : String) (n : Nat) :
    ∃ k, SearchEnds taken base n k ∧
      freeNumbered taken base n taken.length = numberedLabel base k := by
  obtain ⟨k, hle, heq, hfree, hbefore⟩ := freeNumbered_least taken base n
  exact ⟨k, searchEnds_of_least hle hfree hbefore, heq⟩

/-- A label is found for any candidates, and it is free. It is the first candidate that is free;
if none is, the search behind the last candidate ends, after at most as many numbers as there are
taken labels, and the label is that candidate under the least number from two on that is free. -/
theorem uniqueLabel_fresh (taken : List String) {candidates : List String}
    (h : candidates ≠ []) :
    ∃ label, uniqueLabel taken candidates = some label ∧ label ∉ taken ∧
      (∀ before c after, candidates = before ++ c :: after → (∀ b ∈ before, b ∈ taken) →
        c ∉ taken → label = c) ∧
      ((∀ c ∈ candidates, c ∈ taken) →
        ∃ n, SearchEnds taken (candidates.getLast h) 2 n ∧ n ≤ 2 + taken.length ∧
          2 ≤ n ∧ label = candidates.getLast h ++ "_" ++ toString n ∧
          ∀ j, 2 ≤ j → j < n → candidates.getLast h ++ "_" ++ toString j ∈ taken) := by
  obtain ⟨label, hlabel, hfree⟩ := uniqueLabel_of_ne_nil taken h
  refine ⟨label, hlabel, hfree, ?_, ?_⟩
  · rintro before c after rfl hbefore hc
    have hskip : before.find? (fun c => !taken.contains c) = none := by
      simpa using hbefore
    have hhere : (c :: after).find? (fun c => !taken.contains c) = some c :=
      List.find?_cons_of_pos (by simpa using hc)
    have hfound : (before ++ c :: after).find? (fun c => !taken.contains c) = some c := by
      rw [List.find?_append, hskip, hhere, Option.none_or]
    rw [uniqueLabel, hfound, Option.some.injEq] at hlabel
    exact hlabel.symm
  · intro htaken
    have hnone : candidates.find? (fun c => !taken.contains c) = none := by
      simpa using htaken
    obtain ⟨n, hends, heq⟩ := searchEnds_freeNumbered taken (candidates.getLast h) 2
    obtain ⟨hle, _, hbefore⟩ := hends.least
    rw [uniqueLabel, hnone, List.getLast?_eq_some_getLast h] at hlabel
    have hnumbered : numberedLabel (candidates.getLast h) n = label := by
      rw [← heq]
      exact Option.some.inj hlabel
    exact ⟨n, hends, hends.le, hle, hnumbered.symm, hbefore⟩

theorem uniqueLabel_fresh_region :
    ["region", "Region"] ≠ [] ∧
    uniqueLabel ["Region", "region", "Region_2"] ["region", "Region"] = some "Region_3" ∧
    "Region_3" ∉ ["Region", "region", "Region_2"] ∧
    SearchEnds ["Region", "region", "Region_2"] "Region" 2 3 := by
  have hne : ["region", "Region"] ≠ [] := List.cons_ne_nil _ _
  have hregion : uniqueLabel ["Region", "region", "Region_2"] ["region", "Region"] =
      some "Region_3" := by decide
  obtain ⟨label, hlabel, hfree, _, hnumbered⟩ :=
    uniqueLabel_fresh ["Region", "region", "Region_2"] hne
  obtain ⟨n, hends, _, _, heq, _⟩ := hnumbered (by decide)
  obtain rfl : label = "Region_3" := Option.some.inj (hlabel.symm.trans hregion)
  have hnumber : numberedLabel "Region" n = numberedLabel "Region" 3 := heq.symm
  obtain rfl := numberedLabel_inj hnumber
  exact ⟨hne, hregion, hfree, hends⟩

end MetricLayer
