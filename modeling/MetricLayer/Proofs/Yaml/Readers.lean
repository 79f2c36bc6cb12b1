import MetricLayer.Proofs.Fault
import MetricLayer.Proofs.Yaml.Place
import MetricLayer.Yaml.Layout

/-!
# Where readers stop

Tags, directives, and quoted, block and plain texts: behind each of them no ampersand is next,
unless it may stand behind the last character of what was read.
-/
namespace MetricLayer.Yaml

open Cursor

variable {c c' : Cursor}

/-! ### Names and tags -/

lemma next_ne_of_endsWord (h : endsWord c.next = true) : c.next ≠ some '&' := by
  intro hnext
  rw [hnext] at h
  cases h

/-- A name is passed behind its indicator, and no ampersand is next. -/
lemma readName_ok {name : String} {mark : Char} (hmark : c.next = some mark)
    (h : readName c = .ok (name, c')) :
    c.Passes (mark :: name.toList) c' ∧ name.toList ≠ [] ∧ c'.next ≠ some '&' := by
  unfold readName at h
  rcases hspan : c.step.span (fun ch => !endsName ch) with ⟨run, c''⟩
  obtain ⟨hpasses, _, hnext⟩ := passes_span hspan
  rw [hspan] at h
  dsimp only at h
  split at h
  · cases h
  · rename_i hname
    cases h
    rw [String.toList_ofList]
    refine ⟨(passes_step hmark).trans hpasses, ?_, fun hamp => ?_⟩
    · rintro rfl
      exact hname rfl
    · have hends := hnext '&' hamp
      cases hends

lemma goes_readHandle {name : String} (h : readHandle c = .ok (name, c')) : c.Goes c' := by
  unfold readHandle at h
  split at h
  · cases h
  · split at h
    · cases h
      exact goes_step c
    · rcases hspan : c.step.span isHandleChar with ⟨run, c''⟩
      rw [hspan] at h
      dsimp only at h
      split at h
      · cases h
        exact ((goes_step c).trans (goes_span hspan)).trans (goes_step c'')
      · cases h

lemma goes_readTagText {older : Bool} {fuel : Nat} {acc : List Char} {text : String}
    (h : readTagText older fuel acc c = .ok (text, c')) : c.Goes c' := by
  induction fuel generalizing acc c with
  | zero => cases h
  | succ fuel ih =>
    unfold readTagText at h
    rcases hspan : c.span (isTagChar older) with ⟨run, c''⟩
    rw [hspan] at h
    have hrun := goes_span hspan
    dsimp only at h
    split at h
    · split at h
      · split at h
        · cases h
        · exact (hrun.trans (goes_advance c'' _)).trans (ih h)
      · cases h
    · split at h
      · cases h
      · cases h
        exact hrun

lemma stops_readTag {older : Bool} {fuel : Nat} {t : WrittenTag}
    (h : readTag older fuel c = .ok (t, c')) : c.Stops c' := by
  unfold readTag at h
  extract_lets double handle start finish at h
  have hstart : c.Goes start := by
    show c.Goes (if double = true then c.step else c)
    split
    · exact goes_step c
    · exact .refl c
  -- Whatever form the tag has, a word ends behind it.
  have hfinish : ∀ t' c'', start.Goes c'' → finish (t', c'') = .ok (t, c') → c.Stops c' := by
    intro t' c'' hgoes hlast
    simp only [finish] at hlast
    split at hlast
    · rename_i hends
      cases hlast
      exact (hstart.trans hgoes).stops (next_ne_of_endsWord hends)
    · cases hlast
  split at h
  · obtain ⟨⟨suffix, c₁⟩, hsuffix, h⟩ := bind_eq_ok h
    have hgoes := (goes_advance start 2).trans (goes_readTagText hsuffix)
    dsimp only at h
    split at h
    · cases h
    · exact hfinish _ _ (hgoes.trans (goes_step c₁)) h
  · split at h
    · exact hfinish _ _ (goes_step start) h
    · split at h
      · obtain ⟨⟨name, c₁⟩, hname, h⟩ := bind_eq_ok h
        obtain ⟨⟨suffix, c₂⟩, hsuffix, h⟩ := bind_eq_ok h
        exact hfinish _ _ ((goes_readHandle hname).trans (goes_readTagText hsuffix)) h
      · obtain ⟨⟨suffix, c₁⟩, hsuffix, h⟩ := bind_eq_ok h
        exact hfinish _ _ ((goes_step start).trans (goes_readTagText hsuffix)) h

/-! ### Directives -/

lemma goes_readVersionNumber {n : Nat} (h : readVersionNumber c = .ok (n, c')) : c.Goes c' := by
  unfold readVersionNumber at h
  rcases hspan : c.span Char.isDigit with ⟨run, c''⟩
  rw [hspan] at h
  dsimp only at h
  split at h
  · cases h
  · cases h
    exact goes_span hspan

lemma goes_readVersion {v : Version} (h : readVersion c = .ok (v, c')) : c.Goes c' := by
  unfold readVersion at h
  obtain ⟨⟨major, c₁⟩, hmajor, h⟩ := bind_eq_ok h
  have hgoes := (goes_skip c _).trans (goes_readVersionNumber hmajor)
  dsimp only at h
  split at h
  · cases h
  · obtain ⟨⟨minor, c₂⟩, hminor, h⟩ := bind_eq_ok h
    dsimp only at h
    split at h
    · cases h
      exact hgoes.trans ((goes_step c₁).trans (goes_readVersionNumber hminor))
    · cases h

lemma goes_readScope {older : Bool} {fuel : Nat} {d : Directive}
    (h : readScope older fuel c = .ok (d, c')) : c.Goes c' := by
  unfold readScope at h
  obtain ⟨⟨handle, c₁⟩, hhandle, h⟩ := bind_eq_ok h
  have hgoes := (goes_skip c _).trans (goes_readHandle hhandle)
  dsimp only at h
  split at h
  · cases h
  · obtain ⟨⟨scope, c₂⟩, hscope, h⟩ := bind_eq_ok h
    dsimp only at h
    split at h
    · cases h
      exact hgoes.trans ((goes_skip c₁ _).trans (goes_readTagText hscope))
    · cases h

/-- The place behind the spaces and the comment at the end of a line. -/
def commentEnd (c : Cursor) : Cursor :=
  let c := c.skip (· == ' ')
  if c.next == some '#' then c.skip fun ch => !isLineEnd ch else c

lemma goes_commentEnd (c : Cursor) : c.Goes (commentEnd c) := by
  unfold commentEnd
  dsimp only
  split
  · exact (goes_skip c _).trans (goes_skip _ _)
  · exact goes_skip c _

/-- The rest of a line is passed, which holds nothing but a comment. -/
lemma stops_commentEnd {α : Type} {a b : α}
    (h : (if (!endsLine (commentEnd c).next) = true then .error .malformed
      else match (commentEnd c).lineBreak? with
        | some (_, after) => (pure (a, after) : Except Flaw (α × Cursor))
        | none => pure (a, commentEnd c)) = .ok (b, c')) : c.Stops c' := by
  split at h
  · cases h
  · rename_i hends
    have hstops := stops_lineEnd (c := commentEnd c) (by simpa using hends)
    split at h <;> rename_i hbreak <;> cases h
    · exact (goes_commentEnd c).then_stops (hstops.1 _ _ hbreak)
    · exact (goes_commentEnd c).then_stops (hstops.2 hbreak)

lemma stops_readDirective {older : Bool} {fuel : Nat} {d : Directive}
    (h : readDirective older fuel c = .ok (d, c')) : c.Stops c' := by
  unfold readDirective at h
  rcases hspan : c.step.span isDirectiveChar with ⟨run, c₁⟩
  rw [hspan] at h
  have hname := (goes_step c).trans (goes_span hspan)
  extract_lets finish at h
  have hfinish : ∀ d' c₂, c.Goes c₂ → finish (d', c₂) = .ok (d, c') → c.Stops c' := by
    intro d' c₂ hgoes hlast
    simp only [finish] at hlast
    exact hgoes.then_stops (stops_commentEnd (c := c₂) hlast)
  dsimp only at h
  split at h
  · cases h
  · split at h
    · obtain ⟨⟨v, c₂⟩, hversion, h⟩ := bind_eq_ok h
      exact hfinish _ _ (hname.trans (goes_readVersion hversion)) h
    · obtain ⟨⟨d', c₂⟩, hscope, h⟩ := bind_eq_ok h
      exact hfinish _ _ (hname.trans (goes_readScope hscope)) h
    · exact hfinish _ _ (hname.trans (goes_skip c₁ _)) h

/-! ### Quoted texts -/

lemma goes_foldedBreaks {fuel : Nat} {acc breaks : List Char}
    (h : foldedBreaks fuel acc c = .ok (breaks, c')) : c.Goes c' := by
  induction fuel generalizing acc c with
  | zero => cases h
  | succ fuel ih =>
    unfold foldedBreaks at h
    have hgap := goes_skip c isGap
    split at h
    · cases h
    · split at h
      · rename_i hbreak
        exact (hgap.trans (stops_lineBreak hbreak).goes).trans (ih h)
      · cases h
        exact hgap

lemma goes_readEscape {fuel : Nat} {acc text : List Char}
    (h : readEscape fuel acc c = .ok (text, c')) : c.Goes c' := by
  unfold readEscape at h
  split at h
  · cases h
  · split at h
    · cases h
      exact goes_step c
    · split at h
      · cases h
      · obtain ⟨⟨ch, more⟩, _, h⟩ := bind_eq_ok h
        cases h
        exact (goes_advance c _).trans (goes_advance _ more)
    · rename_i hbreak
      obtain ⟨⟨breaks, c₁⟩, hbreaks, h⟩ := bind_eq_ok h
      cases h
      exact (stops_lineBreak hbreak).goes.trans (goes_foldedBreaks hbreaks)
    · cases h

lemma goes_readGap {fuel : Nat} {acc text : List Char}
    (h : readGap fuel acc c = .ok (text, c')) : c.Goes c' := by
  unfold readGap at h
  rcases hspan : c.span isGap with ⟨gap, c₁⟩
  rw [hspan] at h
  have hgap := goes_span hspan
  dsimp only at h
  split at h
  · cases h
  · rename_i hbreak
    obtain ⟨⟨breaks, c₂⟩, hbreaks, h⟩ := bind_eq_ok h
    cases h
    exact (hgap.trans (stops_lineBreak hbreak).goes).trans (goes_foldedBreaks hbreaks)
  · cases h
    exact hgap

/-- A quoted text ends with its quote. -/
lemma stops_readQuoted {double : Bool} {fuel : Nat} {acc : List Char} {text : String}
    (h : readQuoted double fuel acc c = .ok (text, c')) : c.Stops c' := by
  induction fuel generalizing acc c with
  | zero => cases h
  | succ fuel ih =>
    unfold readQuoted at h
    split at h
    · cases h
    · rename_i ch hch
      split at h
      · split at h
        · rename_i hgap
          exact (goes_readGap hgap).then_stops (ih h)
        · cases h
      · rcases Bool.eq_false_or_eq_true (double && ch == '\\') with hescape | hescape
        · rw [if_pos hescape] at h
          split at h
          · rename_i htext
            exact ((goes_step c).trans (goes_readEscape htext)).then_stops (ih h)
          · cases h
        · rw [if_neg (by simp [hescape])] at h
          rcases Bool.eq_false_or_eq_true (ch == (if double then '"' else '\''))
            with hquote | hquote
          · rw [if_pos hquote] at h
            split at h
            · exact (goes_advance c 2).then_stops (ih h)
            · cases h
              refine stops_of_last (passes_step hch) rfl ?_
              rw [eq_of_beq hquote]
              cases double <;> rfl
          · rw [if_neg (by simp [hquote])] at h
            exact (goes_step c).then_stops (ih h)

/-! ### Block texts -/

lemma stops_readHeader {header : BlockHeader} (h : readHeader c = .ok (header, c')) :
    c.Stops c' := by
  unfold readHeader at h
  split at h
  rename_i header' c₁ hsign
  have hgoes : c.Goes c₁ := by
    split at hsign
    · split at hsign <;> cases hsign
      · exact goes_advance c 2
      · exact goes_step c
    · split at hsign <;> cases hsign
      · exact goes_advance c 2
      · exact goes_step c
    · cases hsign
      exact .refl c
  dsimp only at h
  split at h
  · cases h
  · exact hgoes.then_stops (stops_commentEnd (c := c₁) h)

lemma blanks_leadingBreaks {fuel largest largest' : Nat} {acc breaks : List Char}
    {first first' : Option Nat}
    (h : leadingBreaks fuel acc first largest c = (breaks, first', largest', c')) :
    c.Blanks c' := by
  induction fuel generalizing acc first largest c with
  | zero =>
    cases h
    exact .refl _
  | succ fuel ih =>
    unfold leadingBreaks at h
    dsimp only at h
    split at h
    · rename_i hbreak
      exact ((blanks_skipSpaces c).trans (blanks_lineBreak hbreak)).trans (ih h)
    · cases h
      exact blanks_skipSpaces c

lemma blanks_innerBreaks {indent fuel : Nat} {acc breaks : List Char}
    (h : innerBreaks indent fuel acc c = (breaks, c')) : c.Blanks c' := by
  induction fuel generalizing acc c with
  | zero =>
    cases h
    exact .refl _
  | succ fuel ih =>
    unfold innerBreaks at h
    dsimp only at h
    have hskip := blanks_skipUpTo c (indent - c.column)
    split at h
    · rename_i hbreak
      exact (hskip.trans (blanks_lineBreak hbreak)).trans (ih h)
    · cases h
      exact hskip

/-- A line is passed up to its end. -/
lemma endsLine_of_span {line : List Char} (h : c.span (fun ch => !isLineEnd ch) = (line, c')) :
    endsLine c'.next = true := by
  rcases c'.next_cases with hend | ⟨ch, hch⟩
  · rw [hend]
    rfl
  · have hbreak := (passes_span h).2.2 ch hch
    rw [hch]
    simpa [endsLine] using hbreak

/-- The lines of a block text end where a line starts or no character is left. -/
lemma stops_readLines {s : BlockStyle} {fuel : Nat} {acc breaks : List Char} {c₀ : Cursor}
    (h : c₀.Stops c) : c₀.Stops (readLines s fuel acc breaks c).after := by
  induction fuel generalizing acc breaks c with
  | zero => exact h
  | succ fuel ih =>
    unfold readLines
    split
    · exact h
    · rcases hspan : c.span (fun ch => !isLineEnd ch) with ⟨line, c₁⟩
      -- The line is passed up to its break, or up to the end of the text.
      have hline : c₀.Goes c₁ := h.goes.trans (goes_span hspan)
      have hstops := stops_lineEnd (endsLine_of_span hspan)
      have hblank : ∀ c₂, c₀.Stops c₂ → c₀.Stops (innerBreaks s.indent fuel [] c₂).2 :=
        fun c₂ h => h.then_blanks (blanks_innerBreaks rfl)
      dsimp only
      rcases hbreak : c₁.lineBreak? with _ | ⟨b, c₂⟩ <;> dsimp only
      · have hnext := hblank c₁ (hline.then_stops (hstops.2 hbreak))
        split
        · exact hnext
        · split <;> exact ih hnext
      · have hnext := hblank c₂ (hline.then_stops (hstops.1 b c₂ hbreak))
        split
        · exact hnext
        · split <;> exact ih hnext

lemma stops_readBlock {folded : Bool} {least fuel : Nat} {text : String}
    (h : readBlock folded least fuel c = .ok (text, c')) : c.Stops c' := by
  unfold readBlock at h
  obtain ⟨⟨header, c₁⟩, hheader, h⟩ := bind_eq_ok h
  have hstart := stops_readHeader hheader
  dsimp only at h
  split at h
  · rcases hbreaks : leadingBreaks fuel [] none 0 c₁ with ⟨breaks, first, largest, c₂⟩
    rw [hbreaks] at h
    have hlines := hstart.then_blanks (blanks_leadingBreaks hbreaks)
    split at h
    · split at h <;> cases h
      exact stops_readLines hlines
    · cases h
      exact stops_readLines hlines
  · rename_i n _
    cases h
    exact stops_readLines (hstart.then_blanks (blanks_innerBreaks rfl))

/-! ### Plain texts -/

/-- A run of a plain text ends in front of no ampersand. -/
lemma next_drop_runLength (s : PlainStyle) (n : Nat) (text : List Char) :
    n ≤ s.runLength n text ∧ (text.drop (s.runLength n text - n)).head? ≠ some '&' := by
  induction text generalizing n with
  | nil => simp [PlainStyle.runLength]
  | cons ch text ih =>
    unfold PlainStyle.runLength
    split
    · obtain ⟨hle, hnext⟩ := ih (n + 1)
      refine ⟨by omega, ?_⟩
      rwa [show s.runLength (n + 1) text - n = s.runLength (n + 1) text - (n + 1) + 1 by omega,
        List.drop_succ_cons]
    · rename_i hstop
      refine ⟨Nat.le_refl n, ?_⟩
      rw [Nat.sub_self, List.drop_zero, List.head?_cons]
      rintro ⟨rfl⟩
      refine hstop ?_
      cases hflow : s.inFlow <;> rw [PlainStyle.goesOn, hflow] <;> rfl

lemma blanks_plainBreaks {fuel : Nat} {acc : List Char} :
    c.Blanks (plainBreaks fuel acc c).2 := by
  induction fuel generalizing acc c with
  | zero => exact .refl c
  | succ fuel ih =>
    unfold plainBreaks
    dsimp only
    have hskip := blanks_skipSpaces c
    split
    · rename_i hbreak
      have hline := hskip.trans (blanks_lineBreak hbreak)
      split
      · exact hline
      · exact hline.trans ih
    · exact hskip

/-- Between two runs stand blanks. -/
lemma blanks_readPlainGap (fuel : Nat) (c : Cursor) : c.Blanks (readPlainGap fuel c).after := by
  unfold readPlainGap
  have hskip := blanks_skipSpaces c
  dsimp only
  split
  · rename_i hbreak
    have hline := hskip.trans (blanks_lineBreak hbreak)
    split
    · exact hline
    · exact hline.trans blanks_plainBreaks
  · exact hskip

lemma stops_readRuns {s : PlainStyle} {indent fuel : Nat} {acc gap : List Char} {broken : Bool}
    {c₀ : Cursor} (h : c₀.Stops c) : c₀.Stops (readRuns s indent fuel acc gap broken c).after := by
  induction fuel generalizing acc gap broken c with
  | zero => exact h
  | succ fuel ih =>
    unfold readRuns
    generalize hrun : (if c.next == some '#' then 0 else s.runLength 0 c.rest) = run
    dsimp only
    split
    · exact h
    · rename_i hsome
      have hgap : c₀.Stops (c.advance run) := by
        split at hrun
        · exact absurd (beq_iff_eq.mpr hrun.symm) hsome
        · obtain rfl := hrun
          have hamp := (next_drop_runLength s 0 c.rest).2
          rw [Nat.sub_zero, ← rest_advance] at hamp
          exact (h.goes.trans (goes_advance c _)).stops hamp
      have hnext := hgap.then_blanks (blanks_readPlainGap fuel (c.advance run))
      split
      · exact hnext
      · split
        · exact hnext
        · exact ih hnext

lemma stops_readPlain (s : PlainStyle) (indent fuel : Nat) (hnext : c.next ≠ some '&') :
    c.Stops (readPlain s indent fuel c).after :=
  stops_readRuns ((Goes.refl c).stops hnext)

end MetricLayer.Yaml
