import Mathlib
import MetricLayer.Text.Case

/-!
# Lower case and caseless comparison

A text is lowered as a whole, and compared with a pattern character by character. Wherever each
character is lowered to one character, a text matches its own lower-case form; only the dotted
capital I is lowered to two.
-/
namespace MetricLayer.Text

/-! ### Code points of case runs -/

/-- The code points that a case run maps. -/
def runPoints (r : Nat × Nat × Nat × Int) : List Nat :=
  (List.range ((r.2.1 - r.1) / r.2.2.1 + 1)).map (r.1 + r.2.2.1 * ·)

/-- The code points that case runs map. -/
def points (runs : List (Nat × Nat × Nat × Int)) : List Nat :=
  runs.flatMap runPoints

/-- The code points that case runs map to. -/
def imagePoints (runs : List (Nat × Nat × Nat × Int)) : List Nat :=
  runs.flatMap fun r => (runPoints r).map fun n : Nat => ((n : Int) + r.2.2.2).toNat

/-- A case run that moves each of its code points to another character. -/
@[mk_iff]
structure Shifts (r : Nat × Nat × Nat × Int) : Prop where
  step_pos : 0 < r.2.2.1
  first_le_last : r.1 ≤ r.2.1
  offset_ne_zero : r.2.2.2 ≠ 0
  image_valid : 0 ≤ (r.1 : Int) + r.2.2.2 ∧ (r.2.1 : Int) + r.2.2.2 < 0xd800 ∨
    0xdfff < (r.1 : Int) + r.2.2.2 ∧ (r.2.1 : Int) + r.2.2.2 < 0x110000

instance (r : Nat × Nat × Nat × Int) : Decidable (Shifts r) :=
  decidable_of_iff' _ (shifts_iff r)

/-- Whether a code point is in a case run. -/
def inRun (n : Nat) (r : Nat × Nat × Nat × Int) : Bool :=
  r.1 ≤ n && n ≤ r.2.1 && (n - r.1) % r.2.2.1 == 0

lemma Shifts.mem_runPoints_iff {r : Nat × Nat × Nat × Int} (h : Shifts r) {n : Nat} :
    n ∈ runPoints r ↔ inRun n r = true := by
  simp only [runPoints, inRun, List.mem_map, List.mem_range, Bool.and_eq_true, decide_eq_true_eq,
    beq_iff_eq]
  have hle := h.first_le_last
  constructor
  · rintro ⟨i, hi, rfl⟩
    have hmul : r.2.2.1 * i ≤ r.2.1 - r.1 :=
      (Nat.mul_le_mul_left _ (Nat.le_of_lt_succ hi)).trans (Nat.mul_div_le _ _)
    exact ⟨⟨Nat.le_add_right _ _, by omega⟩, by simp⟩
  · rintro ⟨⟨hfirst, hlast⟩, hmod⟩
    refine ⟨(n - r.1) / r.2.2.1, ?_, ?_⟩
    · exact Nat.lt_succ_of_le (Nat.div_le_div_right (by omega))
    · rw [Nat.mul_div_cancel' (Nat.dvd_of_mod_eq_zero hmod)]
      omega

/-- A code point outside of the runs stays. -/
lemma mapRuns_of_not_mem {runs : List (Nat × Nat × Nat × Int)} (h : ∀ r ∈ runs, Shifts r)
    {n : Nat} (hn : n ∉ points runs) : mapRuns runs n = n := by
  have hnone : runs.find? (inRun n) = none := by
    rw [List.find?_eq_none]
    intro r hr hin
    exact hn (List.mem_flatMap.mpr ⟨r, hr, (h r hr).mem_runPoints_iff.mpr hin⟩)
  unfold inRun at hnone
  rw [mapRuns, hnone]

/-- A code point of the runs becomes another one, which is a character. -/
lemma mapRuns_of_mem {runs : List (Nat × Nat × Nat × Int)} (h : ∀ r ∈ runs, Shifts r)
    {n : Nat} (hn : n ∈ points runs) :
    mapRuns runs n ≠ n ∧ (mapRuns runs n).isValidChar ∧ mapRuns runs n ∈ imagePoints runs := by
  obtain ⟨r, hr, hpoint⟩ := List.mem_flatMap.mp hn
  obtain ⟨r', hfind⟩ := Option.isSome_iff_exists.mp (List.find?_isSome (p := inRun n).mpr
    ⟨r, hr, (h r hr).mem_runPoints_iff.mp hpoint⟩)
  have hr' := List.mem_of_find?_eq_some hfind
  have hin := List.find?_some hfind
  have hshift := h r' hr'
  have hpoint' := hshift.mem_runPoints_iff.mpr hin
  unfold inRun at hfind
  simp only [inRun, Bool.and_eq_true, decide_eq_true_eq] at hin
  have hoffset := hshift.offset_ne_zero
  have hvalid := hshift.image_valid
  rw [mapRuns, hfind]
  refine ⟨by dsimp only; omega, ?_, ?_⟩
  · simp only [Nat.isValidChar]
    omega
  · exact List.mem_flatMap.mpr ⟨r', hr', List.mem_map_of_mem hpoint'⟩

lemma caseRuns_shift : ∀ r ∈ lowerRuns ++ upperRuns, Shifts r := by
  decide +kernel

lemma lowerRuns_shift : ∀ r ∈ lowerRuns, Shifts r :=
  fun r hr => caseRuns_shift r (List.mem_append_left _ hr)

lemma upperRuns_shift : ∀ r ∈ upperRuns, Shifts r :=
  fun r hr => caseRuns_shift r (List.mem_append_right _ hr)

/-! ### Images of the case mappings

The tables are compared as bitmaps over the code points, one bit for each.
-/

/-- The bitmap of a list of numbers. -/
def bits (ns : List Nat) : Nat :=
  ns.foldr (fun n b => b ||| 2 ^ n) 0

lemma testBit_bits (ns : List Nat) (n : Nat) : (bits ns).testBit n = true ↔ n ∈ ns := by
  induction ns with
  | nil => simp [bits]
  | cons m ns ih =>
    simp only [bits, List.foldr_cons, Nat.testBit_or, Bool.or_eq_true, Nat.testBit_two_pow,
      decide_eq_true_eq, List.mem_cons] at ih ⊢
    rw [ih, or_comm, eq_comm]

lemma disjoint_of_bits {ns ms : List Nat} (h : bits ns &&& bits ms = 0) {n : Nat} (hn : n ∈ ns) :
    n ∉ ms := by
  intro hm
  have hbit := congrArg (Nat.testBit · n) h
  simp [(testBit_bits ns n).mpr hn, (testBit_bits ms n).mpr hm] at hbit

lemma subset_of_bits {ns ms : List Nat} (h : bits ns &&& bits ms = bits ns) : ns ⊆ ms := by
  intro n hn
  have hbit := congrArg (Nat.testBit · n) h
  rw [Nat.testBit_and, (testBit_bits ns n).mpr hn, Bool.true_and] at hbit
  exact (testBit_bits ms n).mp hbit

/-- The tables agree on the lower-case forms: none of them is lowered once more, each has an
upper-case form, and in ASCII they are letters. -/
lemma lowerImages_checked :
    bits (imagePoints lowerRuns) &&& bits (points lowerRuns ++ lowerExpansions.map (·.1)) = 0 ∧
    bits (imagePoints lowerRuns) &&& bits (points upperRuns ++ upperExpansions.map (·.1)) =
      bits (imagePoints lowerRuns) ∧
    ∀ n ∈ imagePoints lowerRuns, n < 128 →
      (Char.ofNat n).toLower = Char.ofNat n ∧ (Char.ofNat n).toUpper ≠ Char.ofNat n := by
  decide +kernel

/-- A lower-case form is its own lower-case form. -/
lemma lowerImage_lower {n : Nat} (hn : n ∈ imagePoints lowerRuns) :
    n ∉ points lowerRuns ++ lowerExpansions.map (·.1) :=
  disjoint_of_bits lowerImages_checked.1 hn

/-- A lower-case form that is another character has an upper-case form that is another one. -/
lemma lowerImage_upper {n : Nat} (hn : n ∈ imagePoints lowerRuns) :
    n ∈ points upperRuns ++ upperExpansions.map (·.1) :=
  subset_of_bits lowerImages_checked.2.1 hn

/-- The first character of an expansion is another one. -/
lemma upperExpansions_ne : ∀ e ∈ upperExpansions, ∃ n ns, e.2 = n :: ns ∧
    Char.ofNat n ≠ Char.ofNat e.1 := by
  have hall : ∀ e ∈ upperExpansions, e.2 ≠ [] ∧ ∀ n ∈ e.2.head?, Char.ofNat n ≠ Char.ofNat e.1 := by
    decide
  intro e he
  obtain ⟨hne, hhead⟩ := hall e he
  obtain ⟨n, ns, heq⟩ := List.exists_cons_of_ne_nil hne
  exact ⟨n, ns, heq, hhead n (by simp [heq])⟩

lemma expansion?_of_not_mem {table : List (Nat × List Nat)} {n : Nat}
    (h : n ∉ table.map (·.1)) : expansion? table n = none := by
  rw [expansion?, Option.map_eq_none_iff, List.find?_eq_none]
  intro e he heq
  exact h (List.mem_map.mpr ⟨e, he, eq_of_beq heq⟩)

lemma lowerChar_lowerImage {n : Nat} (h : n ∈ imagePoints lowerRuns) (hvalid : n.isValidChar) :
    lowerChar (Char.ofNat n) = Char.ofNat n := by
  rw [lowerChar, Char.toNat_ofNat, if_pos hvalid]
  split
  · rename_i hascii
    exact (lowerImages_checked.2.2 n h hascii).1
  · have hlower := lowerImage_lower h
    rw [List.mem_append, not_or] at hlower
    obtain ⟨hruns, hexpansions⟩ := hlower
    rw [expansion?_of_not_mem hexpansions, mapRuns_of_not_mem lowerRuns_shift hruns]

lemma upperChar_lowerImage {n : Nat} (h : n ∈ imagePoints lowerRuns) (hvalid : n.isValidChar) :
    upperChar (Char.ofNat n) ≠ Char.ofNat n := by
  rw [upperChar, Char.toNat_ofNat, if_pos hvalid]
  split
  · rename_i hascii
    exact (lowerImages_checked.2.2 n h hascii).2
  · cases hfind : upperExpansions.find? (·.1 == n) with
    | some e =>
      obtain ⟨m, ms, he, hne⟩ := upperExpansions_ne e (List.mem_of_find?_eq_some hfind)
      obtain rfl : e.1 = n := by simpa using List.find?_some hfind
      rw [expansion?, hfind, Option.map_some, he]
      exact hne
    | none =>
      have hruns : n ∈ points upperRuns := by
        rcases List.mem_append.mp (lowerImage_upper h) with hruns | hexpansion
        · exact hruns
        · obtain ⟨e, he, rfl⟩ := List.mem_map.mp hexpansion
          exact absurd BEq.rfl (List.find?_eq_none.mp hfind e he)
      obtain ⟨hne, himage, _⟩ := mapRuns_of_mem upperRuns_shift hruns
      simp only [expansion?, hfind, Option.map_none]
      intro heq
      have hnat := congrArg Char.toNat heq
      rw [Char.toNat_ofNat, Char.toNat_ofNat, if_pos himage, if_pos hvalid] at hnat
      exact hne hnat

lemma matchesCaseless_self (c : Char) : matchesCaseless c c = true := by
  unfold matchesCaseless
  split <;> simp

/-- In ASCII a character matches its lower-case form, which is an ASCII character and stays as it
is. -/
lemma ascii_checked : ∀ n < 128, matchesCaseless (Char.ofNat n).toLower (Char.ofNat n) = true ∧
    (Char.ofNat n).toLower.toNat < 128 ∧
    (Char.ofNat n).toLower.toLower = (Char.ofNat n).toLower := by
  decide +kernel

/-- A character matches its lower-case form. -/
lemma matchesCaseless_lowerRuns {c : Char} (hascii : ¬ c.toNat < 128)
    (hexpansion : c.toNat ∉ lowerExpansions.map (·.1)) :
    matchesCaseless (Char.ofNat (mapRuns lowerRuns c.toNat)) c = true := by
  by_cases hruns : c.toNat ∈ points lowerRuns
  · obtain ⟨_, hvalid, himage⟩ := mapRuns_of_mem lowerRuns_shift hruns
    have hlower : lowerChar c = Char.ofNat (mapRuns lowerRuns c.toNat) := by
      rw [lowerChar, if_neg hascii, expansion?_of_not_mem hexpansion]
    have hcase : hasCase (Char.ofNat (mapRuns lowerRuns c.toNat)) = true := by
      simp [hasCase, Ne.symm (upperChar_lowerImage himage hvalid)]
    rw [matchesCaseless, if_pos hcase, lowerChar_lowerImage himage hvalid, hlower]
    simp
  · rw [mapRuns_of_not_mem lowerRuns_shift hruns, Char.ofNat_toNat]
    exact matchesCaseless_self c

/-- Whatever stands around a capital sigma, its lower-case form matches it. -/
lemma matchesCaseless_sigma : matchesCaseless 'ς' 'Σ' = true ∧ matchesCaseless 'σ' 'Σ' = true := by
  decide

/-- A text matches its lower-case form, character by character, if it holds no dotted capital
I. -/
theorem matches_lowerFrom (before : List Char) {cs : List Char} (h : 'İ' ∉ cs) :
    List.Forall₂ (fun p c => matchesCaseless p c = true) (lowerFrom before cs) cs := by
  induction cs generalizing before with
  | nil => exact .nil
  | cons c cs ih =>
    rw [List.mem_cons, not_or] at h
    obtain ⟨hc, hcs⟩ := h
    rw [lowerFrom]
    have hrest := ih (c :: before) hcs
    split
    · rename_i hascii
      have hmatch := (ascii_checked c.toNat hascii).1
      rw [Char.ofNat_toNat] at hmatch
      exact .cons hmatch hrest
    · rename_i hascii
      split
      · rename_i hsigma
        have hcsigma : c = 'Σ' := Char.toNat_inj.mp (eq_of_beq hsigma)
        subst hcsigma
        refine .cons ?_ hrest
        split
        · exact matchesCaseless_sigma.1
        · exact matchesCaseless_sigma.2
      · have hexpansion : c.toNat ∉ lowerExpansions.map (·.1) := by
          intro hmem
          have hdot : c.toNat = 0x130 := by simpa [lowerExpansions] using hmem
          exact hc (Char.toNat_inj.mp hdot.symm)
        rw [expansion?_of_not_mem hexpansion]
        exact .cons (matchesCaseless_lowerRuns hascii hexpansion) hrest

/-! ### ASCII texts -/

/-- Characters that share an upper-case form with an ASCII character are no ASCII characters. -/
lemma caseVariants_ascii {n m : Nat} (hn : n < 128)
    (hm : m ∈ (expansion? caseVariants n).getD []) : 128 ≤ m := by
  have hall : ∀ e ∈ caseVariants, e.1 < 128 → ∀ m ∈ e.2, 128 ≤ m := by decide
  unfold expansion? at hm
  cases hfind : caseVariants.find? (·.1 == n) with
  | none => simp [hfind] at hm
  | some e =>
    obtain rfl : e.1 = n := by simpa using List.find?_some hfind
    rw [hfind] at hm
    exact hall e (List.mem_of_find?_eq_some hfind) hn m hm

lemma toLower_eq_of_matchesCaseless {p c : Char} (hp : p.toNat < 128) (hc : c.toNat < 128)
    (h : matchesCaseless p c = true) : c.toLower = p.toLower := by
  have hplow := (ascii_checked p.toNat hp).2.1
  have hclow := (ascii_checked c.toNat hc).2.1
  rw [Char.ofNat_toNat] at hplow hclow
  simp only [matchesCaseless, lowerChar, if_pos hp, if_pos hc] at h
  split at h
  · rw [Bool.or_eq_true] at h
    rcases h with h | h
    · exact eq_of_beq h
    · have hlarge := caseVariants_ascii hplow (List.contains_iff_mem.mp h)
      omega
  · rw [eq_of_beq h]

lemma lowerFrom_ascii (before : List Char) {cs : List Char} (h : ∀ c ∈ cs, c.toNat < 128) :
    lowerFrom before cs = cs.map Char.toLower := by
  induction cs generalizing before with
  | nil => rfl
  | cons c cs ih =>
    rw [lowerFrom, if_pos (h c List.mem_cons_self),
      ih (c :: before) fun b hb => h b (List.mem_cons_of_mem _ hb)]
    rfl

/-- In ASCII, a text that matches a lowered text without regard to case has it as its lower-case
form. -/
theorem lowerFrom_eq_of_matches {ns cs : List Char} (hns : ∀ c ∈ ns, c.toNat < 128)
    (hcs : ∀ c ∈ cs, c.toNat < 128)
    (h : List.Forall₂ (fun p c => matchesCaseless p c = true) (lowerFrom [] ns) cs) :
    lowerFrom [] cs = lowerFrom [] ns := by
  rw [lowerFrom_ascii [] hns] at h ⊢
  rw [lowerFrom_ascii [] hcs]
  induction ns generalizing cs with
  | nil =>
    cases h
    rfl
  | cons n ns ih =>
    cases h with
    | @cons _ c _ cs hmatch hrest =>
      have hn := hns n List.mem_cons_self
      obtain ⟨_, hlow, hidem⟩ := ascii_checked n.toNat hn
      rw [Char.ofNat_toNat] at hlow hidem
      have hhead := toLower_eq_of_matchesCaseless hlow (hcs c List.mem_cons_self) hmatch
      rw [hidem] at hhead
      rw [List.map_cons, List.map_cons, hhead,
        ih (fun b hb => hns b (List.mem_cons_of_mem _ hb))
          (fun b hb => hcs b (List.mem_cons_of_mem _ hb)) hrest]

end MetricLayer.Text
