import Mathlib.Data.List.TakeWhile
import MetricLayer.Proofs.Fault
import MetricLayer.Proofs.Sql.Readable
import MetricLayer.Sql.Select
import MetricLayer.Text.Word

/-!
# Bind names in a text

A driver reads off the text of a statement which values are to be bound. It takes every run of word
characters after a colon for a name, unless the colon follows a colon, a word character or a
backslash, or another colon follows the run. It does not know of quotes, so it looks into quoted
names as well. At any other character a text can be cut: its bind names are those of the two
sides. All that a statement is made of stands between such characters.
-/
namespace MetricLayer.Sql

/-! ### The names in a text -/

/-- Whether a colon after a character, or at the beginning, may be that of a bind name. -/
def opensName : Option Char → Bool
  | none => true
  | some c => !(c == ':' || c == '\\' || Text.isWordChar c)

/-- The bind names in a text that follows a character. -/
def namesAfter (before : Option Char) : List Char → List String
  | [] => []
  | c :: cs =>
    if c = ':' ∧ opensName before ∧ cs.takeWhile Text.isWordChar ≠ [] ∧
        (cs.dropWhile Text.isWordChar).head? ≠ some ':' then
      String.ofList (cs.takeWhile Text.isWordChar) :: namesAfter (some c) cs
    else namesAfter (some c) cs

/-- The bind names in a text. -/
def bindNames (text : String) : List String := namesAfter none text.toList

/-- Where a bind name stands in a text: a run of word characters that cannot go on, after a
colon. -/
structure NameAt (before : Option Char) (text : List Char) (name : String)
    (pre post : List Char) : Prop where
  split : text = pre ++ ':' :: (name.toList ++ post)
  opens : opensName (pre.getLast?.or before)
  nonempty : name.toList ≠ []
  word : ∀ c ∈ name.toList, Text.isWordChar c
  stops : ∀ c ∈ post.head?, c ≠ ':' ∧ ¬ Text.isWordChar c

lemma run_of_stops {cs post : List Char} (hword : ∀ c ∈ cs, Text.isWordChar c)
    (hstops : ∀ c ∈ post.head?, ¬ Text.isWordChar c) :
    (cs ++ post).takeWhile Text.isWordChar = cs ∧
      (cs ++ post).dropWhile Text.isWordChar = post := by
  rw [List.takeWhile_append_of_pos hword, List.dropWhile_append_of_pos hword]
  cases post with
  | nil => simp
  | cons c post => simp [hstops c rfl]

/-- A name that begins at the first character. -/
lemma nameAt_nil {before : Option Char} {c : Char} {cs : List Char} {name : String} :
    (∃ post, NameAt before (c :: cs) name [] post) ↔
      (c = ':' ∧ opensName before ∧ cs.takeWhile Text.isWordChar ≠ [] ∧
        (cs.dropWhile Text.isWordChar).head? ≠ some ':') ∧
        name = String.ofList (cs.takeWhile Text.isWordChar) := by
  constructor
  · rintro ⟨post, h⟩
    obtain ⟨rfl, rfl⟩ := List.cons.inj h.split
    obtain ⟨htake, hdrop⟩ := run_of_stops h.word fun c hc => (h.stops c hc).2
    rw [htake, hdrop]
    exact ⟨⟨rfl, h.opens, h.nonempty, fun hhead => (h.stops _ hhead).1 rfl⟩,
      String.ofList_toList.symm⟩
  · rintro ⟨⟨rfl, hopens, hne, hhead⟩, rfl⟩
    refine ⟨cs.dropWhile Text.isWordChar, ?_, hopens, ?_, ?_, ?_⟩
    · rw [String.toList_ofList, List.takeWhile_append_dropWhile]
      rfl
    · rwa [String.toList_ofList]
    · intro c hc
      rw [String.toList_ofList] at hc
      exact List.mem_takeWhile_imp hc
    · intro c hc
      refine ⟨fun hcolon => hhead (hcolon ▸ hc), ?_⟩
      have hnot := List.head?_dropWhile_not Text.isWordChar cs
      rw [show (cs.dropWhile Text.isWordChar).head? = some c from hc] at hnot
      simpa using hnot

/-- A name that begins at a later character. -/
lemma nameAt_cons {before : Option Char} {c : Char} {cs : List Char} {name : String}
    {pre post : List Char} :
    NameAt before (c :: cs) name (c :: pre) post ↔ NameAt (some c) cs name pre post := by
  have hlast : (c :: pre).getLast?.or before = pre.getLast?.or (some c) := by
    rw [List.getLast?_cons]
    cases pre.getLast? <;> rfl
  constructor
  · intro h
    exact ⟨(List.cons.inj h.split).2, hlast ▸ h.opens, h.nonempty, h.word, h.stops⟩
  · intro h
    exact ⟨congrArg (c :: ·) h.split, hlast ▸ h.opens, h.nonempty, h.word, h.stops⟩

/-- The scan finds the names that stand in a text, and no others. -/
lemma mem_namesAfter {before : Option Char} {text : List Char} {name : String} :
    name ∈ namesAfter before text ↔ ∃ pre post, NameAt before text name pre post := by
  induction text generalizing before with
  | nil =>
    constructor
    · intro h
      cases h
    · rintro ⟨pre, post, h⟩
      have hsplit := h.split
      cases pre <;> cases hsplit
  | cons c cs ih =>
    have hsplit : (∃ pre post, NameAt before (c :: cs) name pre post) ↔
        (∃ post, NameAt before (c :: cs) name [] post) ∨
          ∃ pre post, NameAt (some c) cs name pre post := by
      constructor
      · rintro ⟨pre, post, h⟩
        cases pre with
        | nil => exact .inl ⟨post, h⟩
        | cons d pre =>
          obtain rfl : c = d := (List.cons.inj h.split).1
          exact .inr ⟨pre, post, nameAt_cons.1 h⟩
      · rintro (⟨post, h⟩ | ⟨pre, post, h⟩)
        · exact ⟨[], post, h⟩
        · exact ⟨c :: pre, post, nameAt_cons.2 h⟩
    rw [hsplit, nameAt_nil, ← ih, namesAfter]
    split <;> simp_all

/-- A bind name stands somewhere in a text. -/
def HasBindName (text name : String) : Prop := ∃ pre post, NameAt none text.toList name pre post

/-- The names found in a text are those that stand in it. -/
theorem mem_bindNames {text name : String} : name ∈ bindNames text ↔ HasBindName text name :=
  mem_namesAfter

instance (text name : String) : Decidable (HasBindName text name) :=
  decidable_of_iff _ mem_bindNames

/-! ### Cuts -/

lemma namesAfter_congr {b b' : Option Char} (h : opensName b = opensName b') (cs : List Char) :
    namesAfter b cs = namesAfter b' cs := by
  cases cs with
  | nil => rfl
  | cons c cs => rw [namesAfter, namesAfter, h]

/-- A character after which a name may begin does not end up in one. -/
lemma namesAfter_cons {c : Char} (hc : opensName (some c)) (before : Option Char)
    (cs : List Char) : namesAfter before (c :: cs) = namesAfter none cs := by
  have hcolon : c ≠ ':' := by
    rintro rfl
    cases hc
  have hopens : opensName (some c) = opensName none := hc
  rw [namesAfter, if_neg fun h => hcolon h.1, namesAfter_congr hopens]

/-- A run of word characters stops at another character at the latest. -/
lemma run_cut {c : Char} (hc : ¬ Text.isWordChar c) (cs ds : List Char) :
    (cs ++ c :: ds).takeWhile Text.isWordChar = cs.takeWhile Text.isWordChar ∧
      ((cs ++ c :: ds).dropWhile Text.isWordChar).head? =
        (cs.dropWhile Text.isWordChar).head?.or (some c) := by
  induction cs with
  | nil => simp [hc]
  | cons a cs ih =>
    by_cases ha : Text.isWordChar a
    · simp [ha, ih.1, ih.2]
    · simp [ha]

/-- A text can be cut at a character after which a name may begin. -/
lemma namesAfter_cut {c : Char} (hc : opensName (some c)) (before : Option Char)
    (cs ds : List Char) :
    namesAfter before (cs ++ c :: ds) = namesAfter before cs ++ namesAfter none ds := by
  have hword : ¬ Text.isWordChar c ∧ c ≠ ':' := by
    simp only [opensName, Bool.not_eq_true', Bool.or_eq_false_iff, beq_eq_false_iff_ne] at hc
    exact ⟨by simp [hc.2], hc.1.1⟩
  induction cs generalizing before with
  | nil => exact namesAfter_cons hc before ds
  | cons a cs ih =>
    obtain ⟨htake, hdrop⟩ := run_cut hword.1 cs ds
    have hcolon : ((cs ++ c :: ds).dropWhile Text.isWordChar).head? ≠ some ':' ↔
        (cs.dropWhile Text.isWordChar).head? ≠ some ':' := by
      rw [hdrop]
      cases (cs.dropWhile Text.isWordChar).head? with
      | none => simp [hword.2]
      | some d => simp
    rw [List.cons_append, namesAfter, namesAfter, htake, ih]
    simp only [hcolon]
    split <;> rfl

lemma namesAfter_of_no_colon {cs : List Char} (h : ':' ∉ cs) (before : Option Char) :
    namesAfter before cs = [] := by
  induction cs generalizing before with
  | nil => rfl
  | cons c cs ih =>
    rw [List.mem_cons, not_or] at h
    rw [namesAfter, if_neg fun hfound => h.1 hfound.1.symm, ih h.2]

lemma bindNames_of_no_colon {s : String} (h : ':' ∉ s.toList) : bindNames s = [] :=
  namesAfter_of_no_colon h none

/-- A text without a colon hides no name of the text after it, if it ends where a text can be
cut. -/
lemma namesAfter_lead {cs : List Char} (hcolon : ':' ∉ cs) (hlast : opensName cs.getLast?)
    (ds : List Char) : namesAfter none (cs ++ ds) = namesAfter none ds := by
  obtain rfl | ⟨init, c, rfl⟩ := List.eq_nil_or_concat cs
  · rfl
  · rw [List.concat_eq_append] at hcolon hlast ⊢
    have hc : opensName (some c) := by simpa using hlast
    have hinit : ':' ∉ init := fun h => hcolon (List.mem_append_left _ h)
    rw [List.append_assoc, List.singleton_append, namesAfter_cut hc, namesAfter_of_no_colon hinit,
      List.nil_append]

/-! ### Words between the parts of a statement -/

/-- A word without a colon, at the end of which a text can be cut. -/
abbrev Leads (w : String) : Prop := ':' ∉ w.toList ∧ opensName w.toList.getLast?

/-- A word without a colon, at the beginning of which a text can be cut. -/
abbrev Trails (w : String) : Prop := ':' ∉ w.toList ∧ opensName w.toList.head?

/-- A word that a text can be cut at. -/
abbrev Separates (w : String) : Prop := Leads w ∧ Trails w ∧ w ≠ ""

lemma bindNames_lead {w : String} (hw : Leads w) (s : String) :
    bindNames (w ++ s) = bindNames s := by
  rw [bindNames, String.toList_append]
  exact namesAfter_lead hw.1 hw.2 s.toList

lemma bindNames_trail {w : String} (hw : Trails w) (s : String) :
    bindNames (s ++ w) = bindNames s := by
  obtain ⟨hcolon, hhead⟩ := hw
  rw [bindNames, String.toList_append]
  cases hcs : w.toList with
  | nil => rw [List.append_nil, bindNames]
  | cons c cs =>
    rw [hcs] at hcolon hhead
    have hrest : ':' ∉ cs := fun h => hcolon (List.mem_cons_of_mem _ h)
    rw [namesAfter_cut hhead, namesAfter_of_no_colon hrest, List.append_nil, bindNames]

/-- A text with a word in it that it can be cut at has the names of both sides. -/
lemma bindNames_between {w : String} (hw : Separates w) (s t : String) :
    bindNames (s ++ w ++ t) = bindNames s ++ bindNames t := by
  obtain ⟨⟨hcolon, hlast⟩, ⟨-, hhead⟩, hne⟩ := hw
  obtain ⟨c, cs, hcs⟩ := List.exists_cons_of_ne_nil (mt String.toList_eq_nil_iff.1 hne)
  rw [hcs] at hcolon hlast hhead
  have hrest : ':' ∉ cs := fun h => hcolon (List.mem_cons_of_mem _ h)
  have hend : opensName cs.getLast? := by
    cases hcs' : cs.getLast? with
    | none => rfl
    | some d => rwa [List.getLast?_cons, hcs'] at hlast
  simp only [bindNames, String.toList_append, List.append_assoc, hcs, List.cons_append]
  rw [namesAfter_cut hhead, namesAfter_lead hrest hend]

lemma bindNames_intercalate {w : String} (hw : Separates w) (ss : List String) :
    bindNames (w.intercalate ss) = ss.flatMap bindNames := by
  induction ss with
  | nil => rfl
  | cons s ss ih =>
    cases ss with
    | nil => simp
    | cons t ss =>
      rw [String.intercalate_cons_cons, bindNames_between hw, ih]
      rfl

lemma opensName_quoteMark (d : Dialect) : opensName (some d.quoteMark) := by
  cases d <;> decide

/-- Doubled quote marks hide no name and add none. -/
lemma namesAfter_quoted (d : Dialect) (cs : List Char) (before : Option Char) :
    namesAfter before (cs.flatMap d.quoteChar) = namesAfter before cs := by
  have hmark := opensName_quoteMark d
  have hword : ¬ Text.isWordChar d.quoteMark := by cases d <;> decide
  have hrun : ∀ cs : List Char,
      (cs.flatMap d.quoteChar).takeWhile Text.isWordChar = cs.takeWhile Text.isWordChar ∧
        ((cs.flatMap d.quoteChar).dropWhile Text.isWordChar).head? =
          (cs.dropWhile Text.isWordChar).head? := by
    intro cs
    induction cs with
    | nil => exact ⟨rfl, rfl⟩
    | cons c cs ih =>
      by_cases hc : c = d.quoteMark
      · rw [hc, List.flatMap_cons, quoteChar_mark]
        simp [hword]
      · rw [List.flatMap_cons, quoteChar_of_ne hc]
        by_cases hcw : Text.isWordChar c
        · simpa [hcw] using ih
        · simp [hcw]
  induction cs generalizing before with
  | nil => rfl
  | cons c cs ih =>
    by_cases hc : c = d.quoteMark
    · rw [hc, List.flatMap_cons, quoteChar_mark]
      simp only [List.cons_append, List.nil_append]
      rw [namesAfter_cons hmark, namesAfter_cons hmark, namesAfter_cons hmark, ih]
    · rw [List.flatMap_cons, quoteChar_of_ne hc, List.singleton_append, namesAfter, namesAfter,
        (hrun cs).1, (hrun cs).2, ih]

/-- A quoted name holds the bind names that are in the name itself. -/
lemma bindNames_quote (d : Dialect) (name : String) :
    bindNames (d.quote name) = bindNames name := by
  have hmark := opensName_quoteMark d
  rw [bindNames, Dialect.quote, String.toList_ofList, namesAfter_cons hmark, namesAfter_cut hmark,
    namesAfter_quoted]
  exact List.append_nil _

lemma isWordChar_of_isDigit {c : Char} (h : c.isDigit) : Text.isWordChar c := by
  have hsmall : c.toNat < 128 := by
    simp only [Char.isDigit, Bool.and_eq_true, decide_eq_true_eq] at h
    have hle := UInt32.le_iff_toNat_le.1 h.2
    exact Nat.lt_of_le_of_lt hle (by decide)
  simp [Text.isWordChar, Text.isLetterOrDigit, hsmall, Char.isAlphanum, h]

/-- A numbered parameter is found by its name. -/
lemma bindNames_param (n : Nat) : bindNames (":" ++ paramName n) = [paramName n] := by
  have hword : ∀ c ∈ (paramName n).toList, Text.isWordChar c := by
    intro c hc
    simp only [paramName, String.toList_append, List.mem_append] at hc
    obtain hc | hc := hc
    · obtain rfl : c = 'p' := by simpa using hc
      decide
    · have hdigits : (toString n).toList = Nat.toDigits 10 n := by simp [Nat.toList_repr]
      rw [hdigits] at hc
      exact isWordChar_of_isDigit (Nat.isDigit_of_mem_toDigits (by decide) (by decide) hc)
  have hcolon : ':' ∉ (paramName n).toList := fun h => absurd (hword _ h) (by decide)
  have hne : (paramName n).toList ≠ [] := by simp [paramName]
  have hnothing : ∀ c ∈ ([] : List Char).head?, ¬ Text.isWordChar c := by simp
  have hrun := run_of_stops hword hnothing
  rw [List.append_nil] at hrun
  have htext : (":" ++ paramName n).toList = ':' :: (paramName n).toList := by simp
  rw [bindNames, htext, namesAfter, hrun.1, hrun.2, if_pos ⟨rfl, rfl, hne, by simp⟩,
    namesAfter_of_no_colon hcolon, String.ofList_toList]

end MetricLayer.Sql
