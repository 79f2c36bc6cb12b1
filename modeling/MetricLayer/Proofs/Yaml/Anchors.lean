import MetricLayer.Proofs.Yaml.Readers

/-!
# Where anchors stand

However tokens are taken from a document, an anchor among them is written in its text: behind an
ampersand that stands at the start, behind a byte order mark there, or behind one of the characters
that may precede an anchor.
-/
namespace MetricLayer.Yaml

open Cursor

/-- Places of a text, given by what is before them, where an anchor may stand. -/
inductive OpenPlace : List Char → Prop
  | start : OpenPlace []
  | mark : OpenPlace ['\ufeff']
  | behind {before : List Char} {ch : Char} (hlast : before.getLast? = some ch)
    (hch : mayPrecede ch = true) : OpenPlace before

/-- An anchor is written in a text at a place where one may stand. -/
def IsWritten (text : List Char) (name : String) : Prop :=
  ∃ before after, text = before ++ '&' :: (name.toList ++ after) ∧ name.toList ≠ [] ∧
    OpenPlace before

/-- A cursor stands in a text. If an ampersand is next, an anchor may stand there. -/
def Cursor.StandsIn (text : List Char) (c : Cursor) : Prop :=
  ∃ before, Passes { rest := text } before c ∧ (c.next = some '&' → OpenPlace before)

/-- The name of an anchor. -/
def Mark.anchor? : Mark → Option String
  | .anchor name => some name
  | _ => none

variable {text : List Char} {c c' : Cursor} {l l' : Layout} {m : Mark}

/-! ### Cursors -/

namespace Cursor.StandsIn

lemma start (text : List Char) : StandsIn text { rest := text } :=
  ⟨[], .refl _, fun _ => .start⟩

lemma stops (h : StandsIn text c) (hstops : c.Stops c') : StandsIn text c' := by
  obtain ⟨before, hpasses, _⟩ := h
  obtain ⟨run, hrun, hopen⟩ := hstops
  refine ⟨before ++ run, hpasses.trans hrun, fun hnext => ?_⟩
  obtain ⟨ch, hlast, hch⟩ := hopen hnext
  exact .behind (by rw [List.getLast?_append, hlast, Option.some_or]) hch

lemma blanks (h : StandsIn text c) (hblanks : c.Blanks c') : StandsIn text c' := by
  rcases hblanks.stops_or_stays with hstops | hstays
  · exact h.stops hstops
  · obtain ⟨before, hpasses, hopen⟩ := h
    refine ⟨before ++ [], hpasses.trans hstays, fun hnext => ?_⟩
    rw [List.append_nil]
    exact hopen (hstays.next_eq ▸ hnext)

/-- One character is passed behind which an anchor may stand. -/
lemma step {ch : Char} (h : StandsIn text c) (hnext : c.next = some ch)
    (hch : mayPrecede ch = true) : StandsIn text c.step :=
  h.stops (stops_of_last (passes_step hnext) rfl hch)

/-- A byte order mark at the start is passed. -/
lemma skipMark (h : StandsIn text c) :
    StandsIn text (if c.index == 0 && c.next == some '\ufeff' then c.step else c) := by
  split
  · rename_i hmark
    obtain ⟨hindex, hnext⟩ := Bool.and_eq_true_iff.mp hmark
    obtain ⟨before, hpasses, _⟩ := h
    have hnil : before = [] := by
      have hlength := hpasses.index
      rw [eq_of_beq hindex] at hlength
      exact List.length_eq_zero_iff.mp (by simpa using hlength.symm)
    subst hnil
    exact ⟨_, hpasses.trans (passes_step (eq_of_beq hnext)), fun _ => .mark⟩
  · exact h

/-- An anchor where one may stand is written there. -/
lemma isWritten {name : String} (h : StandsIn text c) (hnext : c.next = some '&')
    (hname : readName c = .ok (name, c')) : IsWritten text name := by
  obtain ⟨before, hpasses, hopen⟩ := h
  obtain ⟨hrun, hne, _⟩ := readName_ok hnext hname
  refine ⟨before, c'.rest, ?_, hne, hopen hnext⟩
  rw [← List.cons_append, ← hrun.rest]
  exact hpasses.rest

end Cursor.StandsIn

/-! ### Layouts -/

namespace Layout

/-- A layout of a text: its cursor stands in the text, and the anchors that wait are written. -/
structure Follows (text : List Char) (l : Layout) : Prop where
  place : l.cursor.StandsIn text
  written : ∀ t ∈ l.waiting, ∀ name, t.mark.anchor? = some name → IsWritten text name

/-- One layout becomes another one at the same place, and no anchors are added. -/
structure Keeps (l l' : Layout) : Prop where
  cursor : l'.cursor = l.cursor
  waiting : ∀ t ∈ l'.waiting, t ∈ l.waiting ∨ t.mark.anchor? = none

lemma Keeps.refl (l : Layout) : l.Keeps l := ⟨rfl, fun _ => .inl⟩

lemma Keeps.trans {l'' : Layout} (h : l.Keeps l') (h' : l'.Keeps l'') : l.Keeps l'' where
  cursor := h'.cursor.trans h.cursor
  waiting t ht := (h'.waiting t ht).elim (h.waiting t) .inr

lemma Follows.keeps (h : l.Follows text) (hkeeps : l.Keeps l') : l'.Follows text where
  place := by rw [hkeeps.cursor]; exact h.place
  written t ht name hname := by
    rcases hkeeps.waiting t ht with hmem | hnone
    · exact h.written t hmem name hname
    · rw [hnone] at hname
      cases hname

/-- A token is added, and the cursor goes on. -/
lemma Follows.pushed (h : l.Follows text) (hm : ∀ name, m.anchor? = some name → IsWritten text name)
    (hwaiting : l'.waiting = (l.push m).waiting) (hplace : l'.cursor.StandsIn text) :
    l'.Follows text where
  place := hplace
  written t ht name hname := by
    rw [hwaiting, push, List.mem_append, List.mem_singleton] at ht
    rcases ht with hmem | rfl
    · exact h.written t hmem name hname
    · exact hm name hname

lemma keeps_push (hm : m.anchor? = none) : l.Keeps (l.push m) := by
  refine ⟨rfl, fun t ht => ?_⟩
  rw [push, List.mem_append, List.mem_singleton] at ht
  rcases ht with hmem | rfl
  · exact .inl hmem
  · exact .inr hm

lemma keeps_forgetKey (h : l.forgetKey = .ok l') : l.Keeps l' := by
  unfold forgetKey at h
  split at h
  · cases h
    exact .refl l
  · split at h <;> cases h
    exact ⟨rfl, fun _ => .inl⟩

lemma keeps_noteKey (h : l.noteKey = .ok l') : l.Keeps l' := by
  unfold noteKey at h
  split at h
  · cases h
    exact .refl l
  · obtain ⟨l₁, hforget, h⟩ := bind_eq_ok h
    cases h
    exact (keeps_forgetKey hforget).trans ⟨rfl, fun _ => .inl⟩

lemma keeps_dropStaleKeys (h : l.dropStaleKeys = .ok l') : l.Keeps l' := by
  unfold dropStaleKeys at h
  split at h
  · cases h
    exact .refl l
  · split at h <;> cases h
    exact ⟨rfl, fun _ => .inl⟩

lemma keeps_openBlock {column : Nat} (h : l.openBlock column = some l') : l.Keeps l' := by
  unfold openBlock at h
  split at h <;> cases h
  exact ⟨rfl, fun _ => .inl⟩

lemma keeps_closeBlocks_go (l : Layout) (column : Int) (indents : List Int) :
    l.Keeps (closeBlocks.go column l indents) := by
  induction indents generalizing l with
  | nil =>
    unfold closeBlocks.go
    split
    · exact (keeps_push rfl).trans ⟨rfl, fun _ => .inl⟩
    · exact .refl l
  | cons outer rest ih =>
    unfold closeBlocks.go
    split
    · have hpush : l.Keeps { l.push .blockEnd with indent := outer, indents := rest } :=
        (keeps_push rfl).trans ⟨rfl, fun _ => .inl⟩
      exact hpush.trans (ih _)
    · exact .refl l

lemma keeps_closeBlocks (l : Layout) (column : Int) : l.Keeps (l.closeBlocks column) := by
  unfold closeBlocks
  split
  · exact .refl l
  · exact keeps_closeBlocks_go l column l.indents

lemma keeps_startBlock (hm : m.anchor? = none) (h : l.startBlock m = .ok l') : l.Keeps l' := by
  unfold startBlock at h
  split at h
  · cases h
    exact .refl l
  · split at h
    · cases h
    · split at h <;> cases h
      · rename_i hopen
        exact (keeps_openBlock hopen).trans (keeps_push hm)
      · exact .refl _

/-! ### One token -/

/-- A mark that is no anchor is added, and the cursor goes on. -/
lemma Follows.pushedMark (h : l.Follows text) (hm : m.anchor? = none)
    (hwaiting : l'.waiting = (l.push m).waiting) (hplace : l'.cursor.StandsIn text) :
    l'.Follows text := by
  refine h.pushed (fun name hname => ?_) hwaiting hplace
  rw [hm] at hname
  cases hname

/-- A mark of one character is added, behind which an anchor may stand. -/
lemma Follows.pushedChar {l₁ : Layout} {ch : Char} (h : l.Follows text) (hkeeps : l.Keeps l₁)
    (hnext : l.cursor.next = some ch) (hch : mayPrecede ch = true) (hm : m.anchor? = none)
    (hwaiting : l'.waiting = (l₁.push m).waiting) (hcursor : l'.cursor = l₁.cursor.step) :
    l'.Follows text := by
  refine (h.keeps hkeeps).pushedMark hm hwaiting ?_
  rw [hcursor, hkeeps.cursor]
  exact h.place.step hnext hch

lemma Follows.takeStreamEnd (h : l.Follows text) (htake : l.takeStreamEnd = .ok l') :
    l'.Follows text := by
  unfold Layout.takeStreamEnd at htake
  obtain ⟨l₁, hforget, htake⟩ := bind_eq_ok htake
  cases htake
  have h₁ := h.keeps ((keeps_closeBlocks l (-1)).trans (keeps_forgetKey hforget))
  exact h₁.pushedMark (m := .streamEnd) rfl rfl h₁.place

lemma Follows.takeDirective (h : l.Follows text) (htake : l.takeDirective = .ok l') :
    l'.Follows text := by
  unfold Layout.takeDirective at htake
  obtain ⟨l₁, hforget, htake⟩ := bind_eq_ok htake
  obtain ⟨⟨d, c⟩, hread, htake⟩ := bind_eq_ok htake
  cases htake
  have h₁ := h.keeps ((keeps_closeBlocks l (-1)).trans (keeps_forgetKey hforget))
  exact h₁.pushedMark (m := .directive d) rfl rfl
    (h₁.place.stops (stops_readDirective hread))

lemma Follows.takeFlowStart {isMapping : Bool} {ch : Char} (h : l.Follows text)
    (hnext : l.cursor.next = some ch) (hch : mayPrecede ch = true)
    (htake : l.takeFlowStart isMapping = .ok l') : l'.Follows text := by
  unfold Layout.takeFlowStart at htake
  obtain ⟨l₁, hnote, htake⟩ := bind_eq_ok htake
  cases htake
  refine h.pushedChar (keeps_noteKey hnote) hnext hch ?_ rfl rfl
  cases isMapping <;> rfl

lemma Follows.takeFlowEnd {ch : Char} (h : l.Follows text) (hnext : l.cursor.next = some ch)
    (hch : mayPrecede ch = true) (hm : m.anchor? = none) (htake : l.takeFlowEnd m = .ok l') :
    l'.Follows text := by
  unfold Layout.takeFlowEnd at htake
  obtain ⟨l₁, hforget, htake⟩ := bind_eq_ok htake
  cases htake
  exact h.pushedChar (keeps_forgetKey hforget) hnext hch hm rfl rfl

lemma Follows.takeFlowEntry {ch : Char} (h : l.Follows text) (hnext : l.cursor.next = some ch)
    (hch : mayPrecede ch = true) (htake : l.takeFlowEntry = .ok l') : l'.Follows text := by
  unfold Layout.takeFlowEntry at htake
  obtain ⟨l₁, hforget, htake⟩ := bind_eq_ok htake
  cases htake
  exact h.pushedChar (keeps_forgetKey hforget) hnext hch rfl rfl rfl

lemma Follows.takeKey {ch : Char} (h : l.Follows text) (hnext : l.cursor.next = some ch)
    (hch : mayPrecede ch = true) (htake : l.takeKey = .ok l') : l'.Follows text := by
  unfold Layout.takeKey at htake
  obtain ⟨l₁, hstart, htake⟩ := bind_eq_ok htake
  obtain ⟨l₂, hforget, htake⟩ := bind_eq_ok htake
  cases htake
  have hkeeps := (keeps_startBlock rfl hstart).trans (keeps_forgetKey hforget)
  exact h.pushedChar hkeeps hnext hch rfl rfl rfl

/-- No ampersand follows a mark that stands alone. -/
lemma next_ne_of_standsAlone (h : standsAlone c.second = true) : c.step.next ≠ some '&' := by
  have hrest : c.step.rest = c.rest.tail := by rw [← List.drop_one]; exact rest_advance c 1
  rw [next, hrest]
  intro hnext
  rw [second, hnext] at h
  cases h

lemma Follows.takeBlockEntry (h : l.Follows text) (halone : standsAlone l.cursor.second = true)
    (htake : l.takeBlockEntry = .ok l') : l'.Follows text := by
  unfold Layout.takeBlockEntry at htake
  obtain ⟨l₁, hstart, htake⟩ := bind_eq_ok htake
  obtain ⟨l₂, hforget, htake⟩ := bind_eq_ok htake
  cases htake
  have hkeeps := (keeps_startBlock rfl hstart).trans (keeps_forgetKey hforget)
  rw [← hkeeps.cursor] at halone
  have h₂ := h.keeps hkeeps
  exact h₂.pushedMark (m := .blockEntry) rfl rfl
    (h₂.place.stops ((goes_step _).stops (next_ne_of_standsAlone halone)))

/-- Marks are put between the tokens that wait. -/
lemma keeps_insert {before after : List Token} {ms : List Mark} {line : Nat}
    (hwaiting : l.waiting = before ++ after) (hms : ∀ m ∈ ms, m.anchor? = none)
    (hinsert : l'.waiting = before ++ ms.map (⟨·, line⟩) ++ after)
    (hcursor : l'.cursor = l.cursor) : l.Keeps l' := by
  refine ⟨hcursor, fun t ht => ?_⟩
  rw [hinsert, List.mem_append, List.mem_append, List.mem_map] at ht
  rw [hwaiting, List.mem_append]
  rcases ht with (hbefore | ⟨m, hm, rfl⟩) | hafter
  · exact .inl (.inl hbefore)
  · exact .inr (hms m hm)
  · exact .inl (.inr hafter)

lemma Follows.takeValue {ch : Char} (h : l.Follows text) (hnext : l.cursor.next = some ch)
    (hch : mayPrecede ch = true) (htake : l.takeValue = .ok l') : l'.Follows text := by
  unfold Layout.takeValue at htake
  split at htake
  · rename_i key _
    rcases hsplit : l.waiting.splitAt (key.number - l.taken) with ⟨before, after⟩
    have hwaiting : l.waiting = before ++ after := by
      rw [List.splitAt_eq] at hsplit
      obtain ⟨rfl, rfl⟩ := Prod.mk.inj hsplit
      exact (List.take_append_drop _ _).symm
    -- The marks of the key go in front of the tokens found since it started.
    have hinsert : ∀ (l₁ : Layout) (ms : List Mark), (∀ m ∈ ms, m.anchor? = none) →
        l₁.waiting = before ++ ms.map (⟨·, key.line⟩) ++ after → l₁.cursor = l.cursor →
        (l₁.pushChar .value).Follows text := by
      intro l₁ ms hms hw hcursor
      exact h.pushedChar (keeps_insert hwaiting hms hw hcursor) hnext hch rfl rfl rfl
    rw [hsplit] at htake
    dsimp only at htake
    split at htake
    · cases htake
      exact hinsert _ [.key] (by simp [Mark.anchor?]) rfl rfl
    · split at htake <;> cases htake
      · rename_i hopen
        exact hinsert _ [.blockMapping, .key] (by simp [Mark.anchor?]) rfl
          (keeps_openBlock hopen).cursor
      · exact hinsert _ [.key] (by simp [Mark.anchor?]) rfl rfl
  · obtain ⟨l₁, hstart, htake⟩ := bind_eq_ok htake
    cases htake
    exact h.pushedChar (keeps_startBlock rfl hstart) hnext hch rfl rfl rfl

/-- The name of an anchor or an alias is read; that of an anchor is written where it is found. -/
lemma Follows.takeName {mark : String → Mark} {ch : Char} (h : l.Follows text)
    (hnext : l.cursor.next = some ch)
    (hmark : ∀ name found, (mark name).anchor? = some found → found = name ∧ ch = '&')
    (htake : l.takeName mark = .ok l') : l'.Follows text := by
  unfold Layout.takeName at htake
  obtain ⟨l₁, hnote, htake⟩ := bind_eq_ok htake
  obtain ⟨⟨name, c⟩, hread, htake⟩ := bind_eq_ok htake
  cases htake
  have hkeeps := keeps_noteKey hnote
  rw [← hkeeps.cursor] at hnext
  have h₁ := h.keeps hkeeps
  obtain ⟨hpasses, _, hend⟩ := readName_ok hnext hread
  refine h₁.pushed (m := mark name) (fun found hfound => ?_) rfl
    (h₁.place.stops (Goes.stops ⟨_, hpasses⟩ hend))
  obtain ⟨rfl, rfl⟩ := hmark name found hfound
  exact h₁.place.isWritten hnext hread

lemma Follows.takeTag (h : l.Follows text) (htake : l.takeTag = .ok l') : l'.Follows text := by
  unfold Layout.takeTag at htake
  obtain ⟨l₁, hnote, htake⟩ := bind_eq_ok htake
  obtain ⟨⟨t, c⟩, hread, htake⟩ := bind_eq_ok htake
  cases htake
  have h₁ := h.keeps (keeps_noteKey hnote)
  exact h₁.pushedMark (m := .tag t) rfl rfl
    (h₁.place.stops (stops_readTag hread))

lemma Follows.takeBlockText {folded : Bool} (h : l.Follows text)
    (htake : l.takeBlockText folded = .ok l') : l'.Follows text := by
  unfold Layout.takeBlockText at htake
  obtain ⟨l₁, hforget, htake⟩ := bind_eq_ok htake
  obtain ⟨⟨found, c⟩, hread, htake⟩ := bind_eq_ok htake
  cases htake
  have h₁ := h.keeps (keeps_forgetKey hforget)
  exact h₁.pushedMark (m := .scalar found false) rfl rfl
    (h₁.place.stops ((goes_step _).then_stops (stops_readBlock hread)))

lemma Follows.takeQuoted {double : Bool} (h : l.Follows text)
    (htake : l.takeQuoted double = .ok l') : l'.Follows text := by
  unfold Layout.takeQuoted at htake
  obtain ⟨l₁, hnote, htake⟩ := bind_eq_ok htake
  obtain ⟨⟨found, c⟩, hread, htake⟩ := bind_eq_ok htake
  cases htake
  have h₁ := h.keeps (keeps_noteKey hnote)
  exact h₁.pushedMark (m := .scalar found false) rfl rfl
    (h₁.place.stops ((goes_step _).then_stops (stops_readQuoted hread)))

lemma Follows.takePlain (h : l.Follows text) (hnext : l.cursor.next ≠ some '&')
    (htake : l.takePlain = .ok l') : l'.Follows text := by
  unfold Layout.takePlain at htake
  obtain ⟨l₁, hnote, htake⟩ := bind_eq_ok htake
  cases htake
  have hkeeps := keeps_noteKey hnote
  rw [← hkeeps.cursor] at hnext
  have h₁ := h.keeps hkeeps
  exact h₁.pushedMark (m := .scalar _ true) rfl rfl
    (h₁.place.stops (stops_readPlain _ _ _ hnext))

/-- Behind the mark of a document's start or end the line ends or a blank is next. -/
lemma next_ne_of_isMark {ch : Char} (h : c.isMark ch = true) : (c.advance 3).next ≠ some '&' := by
  unfold isMark at h
  split at h
  · rename_i x y z rest hrest
    rw [next, rest_advance, hrest]
    intro hnext
    rw [show rest.head? = some '&' from hnext] at h
    simp [standsAlone, isLineEnd, isGap] at h
  · cases h

lemma Follows.takeDocumentMark {ch : Char} (h : l.Follows text) (hmark : l.cursor.isMark ch = true)
    (hm : m.anchor? = none) (htake : l.takeDocumentMark m = .ok l') : l'.Follows text := by
  unfold Layout.takeDocumentMark at htake
  obtain ⟨l₁, hforget, htake⟩ := bind_eq_ok htake
  cases htake
  have hkeeps := (keeps_closeBlocks l (-1)).trans (keeps_forgetKey hforget)
  rw [← hkeeps.cursor] at hmark
  have h₁ := h.keeps hkeeps
  exact h₁.pushedMark hm rfl
    (h₁.place.stops ((goes_advance _ 3).stops (next_ne_of_isMark hmark)))

/-- Whatever token starts with the next character is taken. -/
lemma Follows.takeFrom {ch : Char} (h : l.Follows text) (hnext : l.cursor.next = some ch)
    (htake : l.takeFrom ch = .ok l') : l'.Follows text := by
  unfold Layout.takeFrom at htake
  dsimp only at htake
  split at htake
  · split at htake
    · exact h.takeDirective htake
    · cases htake
  · exact h.takeFlowStart hnext rfl htake
  · exact h.takeFlowStart hnext rfl htake
  · exact h.takeFlowEnd hnext rfl rfl htake
  · exact h.takeFlowEnd hnext rfl rfl htake
  · exact h.takeFlowEntry hnext rfl htake
  · exact h.takeName hnext (fun _ _ hfound => by cases hfound) htake
  · refine h.takeName hnext (fun name found hfound => ⟨?_, rfl⟩) htake
    exact (Option.some.inj hfound).symm
  · exact h.takeTag htake
  · exact h.takeQuoted htake
  · exact h.takeQuoted htake
  · split at htake
    · cases htake
    · exact h.takeBlockText htake
  · split at htake
    · cases htake
    · exact h.takeBlockText htake
  · rename_i hamp _ _ _ _ _
    split at htake
    · rename_i hmark
      exact h.takeDocumentMark (Bool.and_eq_true_iff.mp hmark).2 rfl htake
    · split at htake
      · rename_i hmark
        exact h.takeDocumentMark (Bool.and_eq_true_iff.mp hmark).2 rfl htake
      · split at htake
        · rename_i hentry
          exact h.takeBlockEntry (Bool.and_eq_true_iff.mp hentry).2 htake
        · split at htake
          · rename_i hkey
            obtain rfl := eq_of_beq (Bool.and_eq_true_iff.mp hkey).1
            exact h.takeKey hnext rfl htake
          · split at htake
            · rename_i hvalue
              obtain rfl := eq_of_beq (Bool.and_eq_true_iff.mp hvalue).1
              exact h.takeValue hnext rfl htake
            · split at htake
              · refine h.takePlain (fun hsame => hamp ?_) htake
                exact Option.some.inj (hnext.symm.trans hsame)
              · cases htake

/-! ### All tokens -/

lemma Follows.toNextToken (h : l.Follows text) (fuel : Nat) :
    (Layout.toNextToken fuel l).Follows text := by
  induction fuel generalizing l with
  | zero => exact h
  | succ fuel ih =>
    unfold Layout.toNextToken
    extract_lets c₁ c₂ c₃ c₄
    have h₂ : c₂.StandsIn text := h.place.skipMark
    have h₃ : c₃.StandsIn text := by
      refine h₂.blanks (blanks_skip c₂ fun ch hch => ?_)
      rw [Bool.or_eq_true, Bool.and_eq_true] at hch
      rcases hch with hspace | ⟨htab, _⟩
      · exact isBlank_of_isSpace hspace
      · rw [eq_of_beq htab]
        rfl
    -- A comment ends where its line does; without one the blanks come last.
    have h₄ : c₄.StandsIn text := by
      show StandsIn text (if c₃.next == some '#' then c₃.skip fun ch => !isLineEnd ch else c₃)
      split
      · exact h₃.stops ((goes_skip c₃ _).stops (next_ne_of_endsLine (endsLine_of_span rfl)))
      · exact h₃
    split
    · rename_i c₅ hbreak
      exact ih ⟨h₄.stops (stops_lineBreak hbreak), h.written⟩
    · exact ⟨h₄, h.written⟩

lemma Follows.findMore (h : l.Follows text) (hfind : l.findMore = .ok l') : l'.Follows text := by
  unfold Layout.findMore at hfind
  obtain ⟨l₁, hdrop, hfind⟩ := bind_eq_ok hfind
  have h₁ := (h.toNextToken l.size).keeps (keeps_dropStaleKeys hdrop)
  have h₂ := h₁.keeps (keeps_closeBlocks l₁ l₁.cursor.column)
  dsimp only at hfind
  split at hfind
  · exact h₂.takeStreamEnd hfind
  · rename_i ch hnext
    exact h₂.takeFrom hnext hfind

lemma Follows.settle (h : l.Follows text) {fuel : Nat} (hsettle : Layout.settle fuel l = .ok l') :
    l'.Follows text := by
  induction fuel generalizing l with
  | zero => cases hsettle
  | succ fuel ih =>
    unfold Layout.settle at hsettle
    split at hsettle
    · cases hsettle
      exact h
    · split at hsettle
      · split at hsettle
        · rename_i hfind
          exact ih (h.findMore hfind) hsettle
        · cases hsettle
      · split at hsettle
        · cases hsettle
        · rename_i hdrop
          have h₁ := h.keeps (keeps_dropStaleKeys hdrop)
          split at hsettle
          · split at hsettle
            · rename_i hfind
              exact ih (h₁.findMore hfind) hsettle
            · cases hsettle
          · cases hsettle
            exact h₁

/-- The next token is one that waits, or the end. -/
lemma Follows.peek {t : Token} (h : l.Follows text) (hpeek : l.peek = .ok (t, l')) :
    l'.Follows text ∧ ∀ name, t.mark = .anchor name → IsWritten text name := by
  unfold Layout.peek at hpeek
  obtain ⟨l₁, hsettle, hpeek⟩ := bind_eq_ok hpeek
  have h₁ := h.settle hsettle
  split at hpeek <;> cases hpeek
  · rename_i hwaiting
    refine ⟨h₁, fun name hname => h₁.written t ?_ name (by rw [hname]; rfl)⟩
    rw [hwaiting]
    exact List.mem_cons_self
  · exact ⟨h₁, fun name hname => by cases hname⟩

lemma Follows.drop (h : l.Follows text) : l.drop.Follows text :=
  ⟨h.place, fun t ht => h.written t (List.mem_of_mem_tail ht)⟩

lemma follows_start (text : List Char) : (start text).Follows text :=
  ⟨.start text, fun _ ht => by cases ht⟩

/-- The marks of the next `n` tokens, which are looked at and taken one after the other. -/
def marks : Nat → Layout → List Mark
  | 0, _ => []
  | n + 1, l =>
    match l.peek with
    | .ok (t, l) => t.mark :: marks n l.drop
    | .error _ => []

/-- Every anchor among the tokens of a layout is written in its text. -/
lemma Follows.marks {name : String} {n : Nat} (h : l.Follows text)
    (hmem : Mark.anchor name ∈ l.marks n) : IsWritten text name := by
  induction n generalizing l with
  | zero => cases hmem
  | succ n ih =>
    unfold Layout.marks at hmem
    split at hmem
    · rename_i hpeek
      obtain ⟨h₁, hwritten⟩ := h.peek hpeek
      rcases List.mem_cons.mp hmem with hname | hmem
      · exact hwritten name hname.symm
      · exact ih h₁.drop hmem
    · cases hmem

end Layout

/-- A reader of a text meets an anchor: it is among the tokens of the text. -/
def MeetsAnchor (text : List Char) (name : String) : Prop :=
  ∃ n, Mark.anchor name ∈ (Layout.start text).marks n

theorem MeetsAnchor.isWritten {name : String} (h : MeetsAnchor text name) :
    IsWritten text name := by
  obtain ⟨n, hmem⟩ := h
  exact (Layout.follows_start text).marks hmem

end MetricLayer.Yaml
