import Mathlib
import MetricLayer.Catalog.Load
import MetricLayer.Proofs.Yaml.Noted

/-!
# Anchors in catalogs

Anchors are refused by a look at the text: an ampersand counts if it is at the start or behind a
blank, a dash or a colon, and a word character follows. The reader meets anchors at other places
too, and its names begin with other characters; such an anchor is hidden from the check.
-/
namespace MetricLayer.Catalog

open Yaml

/-- The check looks at some ampersand. -/
lemma seemsAnchored_iff (allowed : Bool) (text : List Char) :
    seemsAnchored allowed text = true ↔ ∃ before w after, text = before ++ '&' :: w :: after ∧
      before.getLast?.elim allowed precedesAnchor = true ∧ Text.isWordChar w = true := by
  -- `allowed` says what the character in front of the text allows.
  induction text generalizing allowed with
  | nil => simp [seemsAnchored]
  | cons c rest ih =>
    have hlast : ∀ before : List Char, (c :: before).getLast?.elim allowed precedesAnchor =
        before.getLast?.elim (precedesAnchor c) precedesAnchor := by
      intro before
      rw [List.getLast?_cons]
      cases before.getLast? <;> rfl
    rw [seemsAnchored, Bool.or_eq_true, ih]
    constructor
    · rintro (hhere | ⟨before, w, after, rfl, hbefore, hw⟩)
      · obtain ⟨hmark, hword⟩ := Bool.and_eq_true_iff.mp hhere
        obtain ⟨hamp, hallowed⟩ := Bool.and_eq_true_iff.mp hmark
        obtain rfl := eq_of_beq hamp
        cases rest with
        | nil => cases hword
        | cons w after => exact ⟨[], w, after, rfl, hallowed, hword⟩
      · exact ⟨c :: before, w, after, rfl, by rwa [hlast], hw⟩
    · rintro ⟨before, w, after, htext, hbefore, hw⟩
      cases before with
      | nil =>
        obtain ⟨rfl, rfl⟩ := List.cons.inj htext
        refine .inl ?_
        simpa using ⟨hbefore, hw⟩
      | cons b before =>
        obtain ⟨rfl, rfl⟩ := List.cons.inj htext
        exact .inr ⟨before, w, after, rfl, by rwa [← hlast], hw⟩

/-- Characters behind which the reader finds anchors, but not the check. -/
def hidingMarks : List Char := ",[]\x7b\x7d?\"'".toList

/-- An anchor is hidden from the check: its name begins with no word character, or it stands behind
a byte order mark at the start of the text, or behind a quote, a bracket, a comma or a question
mark. -/
inductive Hidden (before : List Char) (name : String) : Prop
  | name (hname : name.toList.head?.elim false Text.isWordChar = false) : Hidden before name
  | mark (hbefore : before = ['\ufeff']) : Hidden before name
  | behind {ch : Char} (hlast : before.getLast? = some ch)
    (hch : ch ∈ hidingMarks) : Hidden before name

/-- An anchor is hidden somewhere in a text. -/
def HiddenIn (text : List Char) (name : String) : Prop :=
  ∃ before after, text = before ++ '&' :: (name.toList ++ after) ∧ Hidden before name

lemma precedes_or_hides {ch : Char} (h : mayPrecede ch = true) :
    precedesAnchor ch = true ∨ ch ∈ hidingMarks := by
  rcases Bool.or_eq_true_iff.mp h with hblank | hmark
  · exact .inl (by simp [precedesAnchor, hblank])
  · rw [show ":,[]\x7b\x7d?\"'".toList = ':' :: hidingMarks from rfl, List.contains_iff_mem,
      List.mem_cons] at hmark
    rcases hmark with rfl | hmem
    · exact .inl rfl
    · exact .inr hmem

/-- An anchor that is written is seen by the check, or hidden. -/
lemma seen_or_hidden {text : List Char} {name : String} (h : IsWritten text name) :
    seemsAnchored true text = true ∨ HiddenIn text name := by
  obtain ⟨before, after, htext, hne, hopen⟩ := h
  rcases Bool.eq_false_or_eq_true (name.toList.head?.elim false Text.isWordChar) with hword | hword
  · obtain ⟨w, rest, hname⟩ := List.exists_cons_of_ne_nil hne
    rw [hname] at hword
    have hseen : before.getLast?.elim true precedesAnchor = true → seemsAnchored true text = true :=
      fun hlook => (seemsAnchored_iff true text).mpr
        ⟨before, w, rest ++ after, by rw [htext, hname, List.cons_append], hlook, hword⟩
    cases hopen with
    | start => exact .inl (hseen rfl)
    | mark => exact .inr ⟨_, after, htext, .mark rfl⟩
    | @behind _ ch hlast hch =>
      rw [hlast] at hseen
      rcases precedes_or_hides hch with hprecedes | hhides
      · exact .inl (hseen hprecedes)
      · exact .inr ⟨before, after, htext, .behind hlast hhides⟩
  · exact .inr ⟨before, after, htext, .name hword⟩

/-- A text is refused before it is read, whatever the environment. -/
def IsRefused (s : String) : Prop :=
  ∃ message, checkText s = .error (refuse message) ∧ ∀ env, load env s = .error (refuse message)

/-- A text passes the check if it is short enough and no anchor is seen in it. -/
lemma checkText_eq_ok_iff (s : String) :
    checkText s = .ok () ↔ s.length ≤ maxLength ∧ seemsAnchored true s.toList = false := by
  unfold checkText
  split
  · rename_i hlong
    exact ⟨nofun, fun h => absurd h.1 (Nat.not_le.mpr hlong)⟩
  · rename_i hshort
    split
    · rename_i hseen
      exact ⟨nofun, fun h => absurd hseen (by simp [h.2])⟩
    · rename_i hunseen
      exact ⟨fun _ => ⟨Nat.not_lt.mp hshort, Bool.eq_false_iff.mpr hunseen⟩, fun _ => rfl⟩

lemma refused_or_passes (s : String) : IsRefused s ∨ checkText s = .ok () := by
  have hrefused : ∀ message, checkText s = .error (refuse message) → IsRefused s := by
    intro message h
    refine ⟨message, h, fun env => ?_⟩
    rw [load, h]
    rfl
  have hcheck : (∃ message, checkText s = .error (refuse message)) ∨ checkText s = .ok () := by
    unfold checkText
    split
    · exact .inl ⟨_, rfl⟩
    · split
      · exact .inl ⟨_, rfl⟩
      · exact .inr rfl
  exact hcheck.imp_left fun ⟨message, h⟩ => hrefused message h

/-- A text with an anchor that the reader meets is refused, or passes with a hidden anchor. -/
lemma refused_or_hidden {s name : String} (h : MeetsAnchor s.toList name) :
    IsRefused s ∨ checkText s = .ok () ∧ HiddenIn s.toList name := by
  rcases refused_or_passes s with hrefused | hpasses
  · exact .inl hrefused
  · rcases seen_or_hidden h.isWritten with hseen | hhidden
    · rw [((checkText_eq_ok_iff s).mp hpasses).2] at hseen
      cases hseen
    · exact .inr ⟨hpasses, hhidden⟩

/-- The check refuses every text in which the reader meets an anchor, whatever the environment,
unless it is hidden. A text passes exactly if it is short enough and has no ampersand at its start
or behind a blank, a dash or a colon with a word character after it; and of the anchors that the
reader notes in a text that becomes a catalog, all are hidden. -/
theorem anchors_refused_or_hidden (s : String) :
    (∀ name, MeetsAnchor s.toList name →
      IsRefused s ∨ checkText s = .ok () ∧ HiddenIn s.toList name) ∧
    (checkText s = .ok () ↔ s.length ≤ maxLength ∧ ∀ before w after,
      s.toList = before ++ '&' :: w :: after → before.getLast?.elim true precedesAnchor = true →
        Text.isWordChar w = false) ∧
    (∀ env memory levels fuel root r, load env s = .ok memory →
      readRoot levels fuel { layout := .start s.toList } = .ok (root, r) →
      ∀ a ∈ r.anchors, HiddenIn s.toList a.name) := by
  refine ⟨fun name => refused_or_hidden, ?_,
    fun env memory levels fuel root r hload hread a ha => ?_⟩
  · rw [checkText_eq_ok_iff, Bool.eq_false_iff, Ne, seemsAnchored_iff]
    refine and_congr_right fun _ => ⟨fun hnone before w after htext hlook => ?_, ?_⟩
    · exact Bool.eq_false_iff.mpr fun hw => hnone ⟨before, w, after, htext, hlook, hw⟩
    · rintro hall ⟨before, w, after, htext, hlook, hw⟩
      rw [hall before w after htext hlook] at hw
      cases hw
  · rcases refused_or_hidden (met_of_readRoot hread a ha) with ⟨_, _, hrefused⟩ | ⟨_, hhidden⟩
    · rw [hrefused env] at hload
      cases hload
    · exact hhidden

lemma passes_bracketed : checkText "{&a facts: []}" = .ok () := by rfl

/-- An anchor behind a bracket. -/
lemma read_bracketed :
    Document.read maxLevels "{&a facts: []}" = .ok ⟨.map [(.str "facts", .list [])], false⟩ := by
  cbv

lemma load_bracketed : load [] "{&a facts: []}" = .ok {} := by
  rw [load, passes_bracketed, read_bracketed]
  rfl

lemma noted_bracketed :
    (readRoot maxLevels 100 { layout := .start "{&a facts: []}".toList }).map
      (fun p => p.2.anchors.map (·.name)) = .ok ["a"] := by
  cbv

theorem anchors_refused_or_hidden_facts :
    MeetsAnchor "&a 1".toList "a" ∧ IsRefused "&a 1" ∧
    MeetsAnchor "{&a facts: []}".toList "a" ∧ checkText "{&a facts: []}" = .ok () ∧
    HiddenIn "{&a facts: []}".toList "a" := by
  have hblock : MeetsAnchor "&a 1".toList "a" := ⟨1, by decide⟩
  refine ⟨hblock, ?_, ⟨3, by decide⟩, passes_bracketed, ?_⟩
  · obtain ⟨hmeets, hpasses, -⟩ := anchors_refused_or_hidden "&a 1"
    refine (hmeets "a" hblock).resolve_right fun h => ?_
    have hunseen := (hpasses.mp h.1).2 [] 'a' " 1".toList rfl rfl
    cases hunseen
  · obtain ⟨-, -, hnoted⟩ := anchors_refused_or_hidden "{&a facts: []}"
    have hnames := noted_bracketed
    cases hread : readRoot maxLevels 100 { layout := .start "{&a facts: []}".toList } with
    | error e =>
      rw [hread] at hnames
      cases hnames
    | ok p =>
      obtain ⟨root, r⟩ := p
      rw [hread] at hnames
      have hmem : "a" ∈ r.anchors.map (·.name) := by
        rw [show r.anchors.map (·.name) = ["a"] from Except.ok.inj hnames]
        exact List.mem_cons_self
      obtain ⟨a, ha, hname⟩ := List.mem_map.mp hmem
      rw [← hname]
      exact hnoted [] {} maxLevels 100 root r load_bracketed hread a ha

lemma passes_dashed : checkText "facts: &-a []" = .ok () := by rfl

/-- An anchor whose name begins with a dash. -/
lemma read_dashed :
    Document.read maxLevels "facts: &-a []" = .ok ⟨.map [(.str "facts", .list [])], false⟩ := by
  cbv

/-- An anchor behind a bracket and one whose name begins with a dash are not refused: their texts
become catalogs. -/
theorem hidden_anchors_load :
    (MeetsAnchor "{&a facts: []}".toList "a" ∧ load [] "{&a facts: []}" = .ok {}) ∧
    (MeetsAnchor "facts: &-a []".toList "-a" ∧ load [] "facts: &-a []" = .ok {}) := by
  refine ⟨⟨⟨3, by decide⟩, load_bracketed⟩, ⟨5, by decide⟩, ?_⟩
  rw [load, passes_dashed, read_dashed]
  rfl

end MetricLayer.Catalog
