import Mathlib.Data.List.Basic
import MetricLayer.Text.Blank
import MetricLayer.Yaml.Cursor

/-!
# Places in a text

A reader only passes characters: what it has passed and what is left make up the text. Behind
everything that it reads, either no ampersand follows, or it has just passed a blank, a colon, a
quote, a bracket, a comma or a question mark. So these are the characters behind which an anchor
may stand.
-/
namespace MetricLayer.Yaml

/-- The characters behind which an anchor may stand. -/
def mayPrecede (ch : Char) : Bool :=
  Text.isBlank ch || ":,[]\x7b\x7d?\"'".toList.contains ch

lemma mayPrecede_of_isBlank {ch : Char} (h : Text.isBlank ch = true) : mayPrecede ch = true := by
  simp [mayPrecede, h]

/-! ### Passing characters -/

/-- One cursor stands behind another one by a run of characters. -/
structure Cursor.Passes (c : Cursor) (run : List Char) (c' : Cursor) : Prop where
  rest : c.rest = run ++ c'.rest
  index : c'.index = c.index + run.length

namespace Cursor

variable {c c' c'' : Cursor} {run more : List Char} {ch : Char} {p : Char → Bool}

lemma Passes.refl (c : Cursor) : c.Passes [] c := ⟨rfl, rfl⟩

lemma Passes.trans (h : c.Passes run c') (h' : c'.Passes more c'') :
    c.Passes (run ++ more) c'' where
  rest := by rw [h.rest, h'.rest, List.append_assoc]
  index := by rw [h'.index, h.index, List.length_append, Nat.add_assoc]

lemma next_eq_some (h : c.next = some ch) : c.rest = ch :: c.rest.tail := by
  unfold next at h
  cases hrest : c.rest with
  | nil => rw [hrest] at h; cases h
  | cons x rest =>
    rw [hrest, List.head?_cons, Option.some.injEq] at h
    rw [h, List.tail_cons]

/-- The next character is passed. -/
lemma passes_step (h : c.next = some ch) : c.Passes [ch] c.step := by
  have hrest := next_eq_some h
  unfold step
  split
  · rename_i hnil
    rw [hnil] at hrest
    cases hrest
  · rename_i x rest hcons
    rw [hcons] at hrest
    obtain ⟨rfl, _⟩ := List.cons.inj hrest
    split <;> exact ⟨hcons, rfl⟩

/-- The end of a text is not passed. -/
lemma step_of_end (h : c.next = none) : c.step = c := by
  have hnil : c.rest = [] := List.head?_eq_none_iff.mp h
  unfold step
  rw [hnil]

lemma next_cases (c : Cursor) : c.next = none ∨ ∃ ch, c.next = some ch := by
  cases c.next with
  | none => exact .inl rfl
  | some ch => exact .inr ⟨ch, rfl⟩

lemma advance_of_end (h : c.next = none) (n : Nat) : c.advance n = c := by
  induction n with
  | zero => rfl
  | succ n ih => rw [advance, step_of_end h, ih]

lemma passes_advance (c : Cursor) (n : Nat) : c.Passes (c.rest.take n) (c.advance n) := by
  induction n generalizing c with
  | zero => exact .refl c
  | succ n ih =>
    rcases c.next_cases with hend | ⟨ch, hch⟩
    · rw [advance_of_end hend, List.head?_eq_none_iff.mp hend, List.take_nil]
      exact .refl c
    · have hstep := passes_step hch
      have hrun : c.rest.take (n + 1) = [ch] ++ c.step.rest.take n := by
        rw [hstep.rest, List.singleton_append, List.take_succ_cons, List.singleton_append]
      rw [hrun]
      exact hstep.trans (ih c.step)

lemma rest_advance (c : Cursor) (n : Nat) : (c.advance n).rest = c.rest.drop n := by
  have hrest := (passes_advance c n).rest
  conv_lhs at hrest => rw [← List.take_append_drop n c.rest]
  exact (List.append_cancel_left hrest).symm

/-- A run of characters in `p` is passed, and the next one is not in `p`. -/
lemma passes_span (h : c.span p = (run, c')) :
    c.Passes run c' ∧ (∀ ch ∈ run, p ch = true) ∧ ∀ ch, c'.next = some ch → p ch = false := by
  obtain ⟨rfl, rfl⟩ := Prod.mk.inj h
  have hpasses := passes_advance c (c.rest.takeWhile p).length
  rw [← List.prefix_iff_eq_take.mp (List.takeWhile_prefix p)] at hpasses
  refine ⟨hpasses, fun ch => List.all_eq_true.mp List.all_takeWhile ch, fun ch hch => ?_⟩
  have hrest : c.rest.drop (c.rest.takeWhile p).length = c.rest.dropWhile p := by
    have hsplit := congrArg (List.drop (c.rest.takeWhile p).length)
      (List.takeWhile_append_dropWhile (p := p) (l := c.rest))
    rw [List.drop_left] at hsplit
    exact hsplit.symm
  have hfirst := List.head?_dropWhile_not p c.rest
  rw [next, rest_advance, hrest] at hch
  simpa [hch] using hfirst

/-! ### Blanks -/

lemma isBlank_of_isBreak (h : isBreak ch = true) : Text.isBlank ch = true := by
  simp only [isBreak, isLineEnd, Bool.or_eq_true, beq_iff_eq] at h
  rcases h with ((((rfl | rfl) | rfl) | rfl) | rfl) <;> rfl

lemma isBreak_of_isLineEnd (h : isLineEnd ch = true) : isBreak ch = true := by
  simp [isBreak, h]

/-- Only blanks are passed. -/
def Blanks (c c' : Cursor) : Prop :=
  ∃ run, c.Passes run c' ∧ ∀ ch ∈ run, Text.isBlank ch = true

lemma Blanks.refl (c : Cursor) : c.Blanks c := ⟨[], .refl c, by simp⟩

lemma Blanks.trans (h : c.Blanks c') (h' : c'.Blanks c'') : c.Blanks c'' := by
  obtain ⟨run, hpasses, hblank⟩ := h
  obtain ⟨more, hpasses', hblank'⟩ := h'
  refine ⟨run ++ more, hpasses.trans hpasses', fun ch hch => ?_⟩
  exact (List.mem_append.mp hch).elim (hblank ch) (hblank' ch)

lemma blanks_skip (c : Cursor) (hp : ∀ ch, p ch = true → Text.isBlank ch = true) :
    c.Blanks (c.skip p) := by
  obtain ⟨hpasses, hrun, _⟩ := passes_span (c := c) (p := p) rfl
  exact ⟨_, hpasses, fun ch hch => hp ch (hrun ch hch)⟩

lemma isBlank_of_isSpace (h : (ch == ' ') = true) : Text.isBlank ch = true := by
  rw [eq_of_beq h]
  rfl

lemma blanks_skipSpaces (c : Cursor) : c.Blanks (c.skip (· == ' ')) :=
  blanks_skip c fun _ => isBlank_of_isSpace

lemma blanks_skipUpTo (c : Cursor) (n : Nat) : c.Blanks (c.skipUpTo (· == ' ') n) := by
  induction n generalizing c with
  | zero => exact .refl c
  | succ n ih =>
    unfold skipUpTo
    split
    · rename_i ch hch
      split
      · rename_i hspace
        have hstep : c.Blanks c.step :=
          ⟨[ch], passes_step hch, by simpa using isBlank_of_isSpace hspace⟩
        exact hstep.trans (ih c.step)
      · exact .refl c
    · exact .refl c

/-- A line break is passed. -/
lemma passes_lineBreak {b : Char} (h : c.lineBreak? = some (b, c')) :
    ∃ run, run ≠ [] ∧ c.Passes run c' ∧ ∀ ch ∈ run, Text.isBlank ch = true := by
  unfold lineBreak? at h
  split at h
  · rename_i rest hrest
    cases h
    have hpasses := passes_advance c 2
    rw [hrest] at hpasses
    refine ⟨['\r', '\n'], by simp, hpasses, ?_⟩
    intro ch hch
    have hbreak : ch = '\r' ∨ ch = '\n' := by simpa using hch
    rcases hbreak with rfl | rfl <;> rfl
  · rename_i ch rest _ hrest
    have hnext : c.next = some ch := by rw [next, hrest]; rfl
    have hstep : isBreak ch = true → ∃ run, run ≠ [] ∧ c.Passes run c.step ∧
        ∀ ch ∈ run, Text.isBlank ch = true := fun hbreak =>
      ⟨[ch], by simp, passes_step hnext, by simpa using isBlank_of_isBreak hbreak⟩
    split at h
    · rename_i hend
      cases h
      exact hstep (isBreak_of_isLineEnd hend)
    · split at h
      · rename_i hbreak
        cases h
        exact hstep hbreak
      · cases h
  · cases h

lemma blanks_lineBreak {b : Char} (h : c.lineBreak? = some (b, c')) : c.Blanks c' := by
  obtain ⟨run, _, hpasses, hblank⟩ := passes_lineBreak h
  exact ⟨run, hpasses, hblank⟩

/-! ### Where a reader stops -/

/-- Some characters are passed. -/
def Goes (c c' : Cursor) : Prop := ∃ run, c.Passes run c'

/-- Some characters are passed, up to a place where no ampersand is next unless it may stand behind
the last one passed. -/
def Stops (c c' : Cursor) : Prop :=
  ∃ run, c.Passes run c' ∧
    (c'.next = some '&' → ∃ ch, run.getLast? = some ch ∧ mayPrecede ch = true)

lemma Goes.refl (c : Cursor) : c.Goes c := ⟨[], .refl c⟩

lemma Goes.trans (h : c.Goes c') (h' : c'.Goes c'') : c.Goes c'' := by
  obtain ⟨run, hpasses⟩ := h
  obtain ⟨more, hpasses'⟩ := h'
  exact ⟨_, hpasses.trans hpasses'⟩

lemma Blanks.goes (h : c.Blanks c') : c.Goes c' := by
  obtain ⟨run, hpasses, _⟩ := h
  exact ⟨run, hpasses⟩

lemma Stops.goes (h : c.Stops c') : c.Goes c' := by
  obtain ⟨run, hpasses, _⟩ := h
  exact ⟨run, hpasses⟩

lemma goes_advance (c : Cursor) (n : Nat) : c.Goes (c.advance n) := ⟨_, passes_advance c n⟩

lemma goes_step (c : Cursor) : c.Goes c.step := goes_advance c 1

lemma goes_span (h : c.span p = (run, c')) : c.Goes c' := ⟨run, (passes_span h).1⟩

lemma goes_skip (c : Cursor) (p : Char → Bool) : c.Goes (c.skip p) :=
  goes_span rfl

/-- Where no ampersand is next, a reader may stop anyway. -/
lemma Goes.stops (h : c.Goes c') (hnext : c'.next ≠ some '&') : c.Stops c' := by
  obtain ⟨run, hpasses⟩ := h
  exact ⟨run, hpasses, fun h => absurd h hnext⟩

lemma stops_of_last (h : c.Passes run c') (hlast : run.getLast? = some ch)
    (hch : mayPrecede ch = true) : c.Stops c' :=
  ⟨run, h, fun _ => ⟨ch, hlast, hch⟩⟩

lemma Goes.then_stops (h : c.Goes c') (h' : c'.Stops c'') : c.Stops c'' := by
  obtain ⟨run, hpasses⟩ := h
  obtain ⟨more, hpasses', hlast⟩ := h'
  refine ⟨_, hpasses.trans hpasses', fun hnext => ?_⟩
  obtain ⟨ch, hch, hmay⟩ := hlast hnext
  exact ⟨ch, by rw [List.getLast?_append, hch, Option.some_or], hmay⟩

/-- Behind blanks a reader may stop, unless there are none. -/
lemma Blanks.stops_or_stays (h : c.Blanks c') : c.Stops c' ∨ c.Passes [] c' := by
  obtain ⟨run, hpasses, hblank⟩ := h
  rcases List.eq_nil_or_concat run with rfl | ⟨init, ch, rfl⟩
  · exact .inr hpasses
  · exact .inl (stops_of_last hpasses (by simp) (mayPrecede_of_isBlank (hblank ch (by simp))))

lemma Passes.next_eq (h : c.Passes [] c') : c'.next = c.next := by
  rw [next, next, h.rest, List.nil_append]

/-- Blanks behind a place where a reader may stop do not matter. -/
lemma Stops.then_blanks (h : c.Stops c') (h' : c'.Blanks c'') : c.Stops c'' := by
  rcases h'.stops_or_stays with hstops | hstays
  · exact h.goes.then_stops hstops
  · obtain ⟨run, hpasses, hlast⟩ := h
    refine ⟨run ++ [], hpasses.trans hstays, fun hnext => ?_⟩
    rw [List.append_nil]
    exact hlast (hstays.next_eq ▸ hnext)

lemma stops_lineBreak {b : Char} (h : c.lineBreak? = some (b, c')) : c.Stops c' := by
  obtain ⟨run, hne, hpasses, hblank⟩ := passes_lineBreak h
  obtain ⟨init, ch, rfl⟩ := (List.eq_nil_or_concat run).resolve_left hne
  exact stops_of_last hpasses (by simp) (mayPrecede_of_isBlank (hblank ch (by simp)))

lemma next_ne_of_endsLine (h : endsLine c.next = true) : c.next ≠ some '&' := by
  intro hnext
  rw [hnext] at h
  cases h

/-- At the end of a line a reader passes the line break, if there is one. -/
lemma stops_lineEnd (h : endsLine c.next = true) :
    (∀ b c', c.lineBreak? = some (b, c') → c.Stops c') ∧ (c.lineBreak? = none → c.Stops c) :=
  ⟨fun _ _ => stops_lineBreak, fun _ => (Goes.refl c).stops (next_ne_of_endsLine h)⟩

end Cursor
end MetricLayer.Yaml
