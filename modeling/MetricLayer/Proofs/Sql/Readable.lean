import Mathlib.Data.List.Basic
import MetricLayer.Sql.Builder

/-!
# Texts that tell where they end

A kind of text is readable before some marks if two such texts, each followed by nothing or by
one of the marks, can only agree when they stand for the same and the same follows them. Quoted
names, numbered parameters and the words of a prefix-free list are readable, and so are lists of
readable texts between separators.
-/
namespace MetricLayer.Sql

/-- What follows a text that ends there: nothing, or one of the marks. -/
def Ends (marks r : List Char) : Prop := ∀ c ∈ r.head?, c ∈ marks

@[simp] lemma ends_nil (marks : List Char) : Ends marks [] := by simp [Ends]

@[simp] lemma ends_cons (marks : List Char) (c : Char) (r : List Char) :
    Ends marks (c :: r) ↔ c ∈ marks := by simp [Ends]

lemma Ends.mono {marks marks' r : List Char} (h : Ends marks r) (hsub : marks ⊆ marks') :
    Ends marks' r := by
  intro c hc
  exact hsub (h c hc)

lemma Ends.ne_cons {marks r : List Char} (h : Ends marks r) {c : Char} (hc : c ∉ marks)
    (u : List Char) : r ≠ c :: u := by
  rintro rfl
  exact hc (by simpa using h)

/-- Texts of a kind that end at one of the marks determine what they stand for. -/
def Readable {α β : Type} (marks : List Char) (text : α → String → Prop) (same : α → β) : Prop :=
  ∀ ⦃x y : α⦄ ⦃s t : String⦄ ⦃r u : List Char⦄, text x s → text y t → Ends marks r →
    Ends marks u → s.toList ++ r = t.toList ++ u → same x = same y ∧ r = u

/-! ### Names, words and numbers -/

lemma quoteChar_mark (d : Dialect) : d.quoteChar d.quoteMark = [d.quoteMark, d.quoteMark] := by
  simp [Dialect.quoteChar]

lemma quoteChar_of_ne {d : Dialect} {c : Char} (h : c ≠ d.quoteMark) : d.quoteChar c = [c] := by
  simp [Dialect.quoteChar, h]

/-- A quote mark that another does not follow is not part of a name. -/
lemma mark_ne_quoted (d : Dialect) {r : List Char} (hr : ∀ v, r ≠ d.quoteMark :: v) (c : Char)
    (cs u : List Char) : d.quoteMark :: r ≠ (c :: cs).flatMap d.quoteChar ++ u := by
  intro h
  by_cases hc : c = d.quoteMark
  · rw [hc, List.flatMap_cons, quoteChar_mark] at h
    exact hr _ (List.cons.inj h).2
  · rw [List.flatMap_cons, quoteChar_of_ne hc] at h
    exact hc (List.cons.inj h).1.symm

/-- A quote mark inside a name is doubled, so a single one ends it. -/
lemma quoted_inj (d : Dialect) {cs ds r u : List Char} (hr : ∀ v, r ≠ d.quoteMark :: v)
    (hu : ∀ v, u ≠ d.quoteMark :: v)
    (h : cs.flatMap d.quoteChar ++ d.quoteMark :: r = ds.flatMap d.quoteChar ++ d.quoteMark :: u) :
    cs = ds ∧ r = u := by
  induction cs generalizing ds with
  | nil =>
    cases ds with
    | nil => exact ⟨rfl, (List.cons.inj h).2⟩
    | cons b ds => exact absurd h (mark_ne_quoted d hr b ds _)
  | cons a cs ih =>
    cases ds with
    | nil => exact absurd h.symm (mark_ne_quoted d hu a cs _)
    | cons b ds =>
      rw [List.flatMap_cons, List.flatMap_cons] at h
      by_cases ha : a = d.quoteMark <;> by_cases hb : b = d.quoteMark
      · rw [ha, hb, List.append_assoc, List.append_assoc, List.append_cancel_left_eq] at h
        obtain ⟨rfl, hru⟩ := ih h
        exact ⟨by rw [ha, hb], hru⟩
      · rw [ha, quoteChar_mark, quoteChar_of_ne hb] at h
        exact absurd (List.cons.inj h).1.symm hb
      · rw [hb, quoteChar_mark, quoteChar_of_ne ha] at h
        exact absurd (List.cons.inj h).1 ha
      · rw [quoteChar_of_ne ha, quoteChar_of_ne hb] at h
        obtain ⟨rfl, hru⟩ := ih (List.cons.inj h).2
        exact ⟨by rw [(List.cons.inj h).1], hru⟩

/-- Quoted names end before any mark but their quote mark. -/
lemma quote_readable (d : Dialect) {marks : List Char} (hmarks : d.quoteMark ∉ marks) :
    Readable marks (fun name s => s = d.quote name) id := by
  rintro name name' _ _ r u rfl rfl hr hu h
  simp only [Dialect.quote, String.toList_ofList, List.cons_append, List.append_assoc,
    List.nil_append, List.cons.injEq, true_and] at h
  obtain ⟨hname, hru⟩ := quoted_inj d (hr.ne_cons hmarks) (hu.ne_cons hmarks) h
  exact ⟨String.toList_inj.mp hname, hru⟩

/-- Words of which none begins another end wherever they stand. -/
lemma word_inj {words : List (List Char)} (hwords : ∀ w ∈ words, ∀ v ∈ words, w <+: v → w = v)
    {w v r u : List Char} (hw : w ∈ words) (hv : v ∈ words) (h : w ++ r = v ++ u) :
    w = v ∧ r = u := by
  have hwv : w = v := by
    rcases List.prefix_or_prefix_of_prefix (List.prefix_append w r) (h ▸ List.prefix_append v u)
      with hpre | hpre
    · exact hwords w hw v hv hpre
    · exact (hwords v hv w hw hpre).symm
  exact ⟨hwv, List.append_cancel_left (hwv ▸ h)⟩

lemma digits_inj {m n : Nat} {r u : List Char} (hr : ∀ c ∈ r.head?, ¬ c.isDigit)
    (hu : ∀ c ∈ u.head?, ¬ c.isDigit)
    (h : Nat.toDigits 10 m ++ r = Nat.toDigits 10 n ++ u) : m = n ∧ r = u := by
  have htake : ∀ (k : Nat) (v : List Char), (∀ c ∈ v.head?, ¬ c.isDigit) →
      (Nat.toDigits 10 k ++ v).takeWhile Char.isDigit = Nat.toDigits 10 k := by
    intro k v hv
    rw [List.takeWhile_append_of_pos
      (fun c hc => Nat.isDigit_of_mem_toDigits (by decide) (by decide) hc)]
    cases v with
    | nil => simp
    | cons c v => simp [hv c rfl]
  have hdigits : Nat.toDigits 10 m = Nat.toDigits 10 n := by
    rw [← htake m r hr, h, htake n u hu]
  refine ⟨?_, List.append_cancel_left (hdigits ▸ h)⟩
  rw [← Nat.ofDigitChars_ten_toDigits (n := m), hdigits, Nat.ofDigitChars_ten_toDigits]

/-- Parameters end before any mark but a digit. -/
lemma paramName_readable {marks : List Char} (hmarks : ∀ c ∈ marks, ¬ c.isDigit) :
    Readable marks (fun n s => s = ":" ++ paramName n) id := by
  rintro m n _ _ r u rfl rfl hr hu h
  simp only [paramName, String.toList_append, List.append_assoc, List.append_cancel_left_eq] at h
  exact digits_inj (fun c hc => hmarks c (hr c hc)) (fun c hc => hmarks c (hu c hc))
    (by simpa [Nat.toList_repr] using h)

/-! ### Lists -/

lemma ends_pieces {marks sep : List Char} (hsep : ∀ v, Ends marks (sep ++ v)) (ss : List String)
    {v : List Char} (hv : Ends marks v) :
    Ends marks ((ss.flatMap fun s => sep ++ s.toList) ++ v) := by
  cases ss with
  | nil => exact hv
  | cons s ss => simpa [List.append_assoc] using hsep _

/-- Readable texts, each after a separator, up to a text that does not begin with one. -/
lemma Readable.pieces {α β : Type} {marks : List Char} {text : α → String → Prop} {same : α → β}
    (h : Readable marks text same) {sep : List Char} (hsep : ∀ v, Ends marks (sep ++ v))
    {xs ys : List α} {ss ts : List String} {r u : List Char} (hx : List.Forall₂ text xs ss)
    (hy : List.Forall₂ text ys ts) (hr : Ends marks r) (hu : Ends marks u)
    (hrsep : ¬ sep <+: r) (husep : ¬ sep <+: u)
    (heq : (ss.flatMap fun s => sep ++ s.toList) ++ r =
      (ts.flatMap fun t => sep ++ t.toList) ++ u) :
    xs.map same = ys.map same ∧ r = u := by
  induction hx generalizing ys ts with
  | nil =>
    cases hy with
    | nil => exact ⟨rfl, heq⟩
    | cons ht hrest => exact absurd ⟨_, by simpa using heq.symm⟩ hrsep
  | cons hs hrest ih =>
    cases hy with
    | nil => exact absurd ⟨_, by simpa using heq⟩ husep
    | cons ht hrest' =>
      simp only [List.flatMap_cons, List.append_assoc, List.append_cancel_left_eq] at heq
      obtain ⟨hsame, heq⟩ := h hs ht (ends_pieces hsep _ hr) (ends_pieces hsep _ hu) heq
      obtain ⟨hall, hru⟩ := ih hrest' heq
      exact ⟨by rw [List.map_cons, List.map_cons, hsame, hall], hru⟩

/-- The text of a list that is not empty, its items between commas. -/
def Listed {α : Type} (text : α → String → Prop) (xs : List α) (s : String) : Prop :=
  xs ≠ [] ∧ ∃ ss, List.Forall₂ text xs ss ∧ s = ", ".intercalate ss

lemma toList_intercalate_cons (sep s : String) (ss : List String) :
    (sep.intercalate (s :: ss)).toList =
      s.toList ++ ss.flatMap fun t => sep.toList ++ t.toList := by
  induction ss generalizing s with
  | nil => simp
  | cons t ss ih =>
    rw [String.intercalate_cons_cons, String.toList_append, String.toList_append, ih]
    simp

/-- Lists of readable texts are readable before marks that are not commas. -/
lemma Readable.listed {α β : Type} {marks : List Char} {text : α → String → Prop} {same : α → β}
    (h : Readable marks text same) (hcomma : ',' ∈ marks) (stops : List Char)
    (hstops : stops ⊆ marks) (hnot : ',' ∉ stops) :
    Readable stops (Listed text) (List.map same) := by
  rintro xs ys _ _ r u ⟨hxs, ss, hx, rfl⟩ ⟨hys, ts, hy, rfl⟩ hr hu heq
  have hsep : ∀ v, Ends marks (", ".toList ++ v) := by
    intro v
    simpa using hcomma
  have hbegins : ∀ v, Ends stops v → ¬ ", ".toList <+: v := by
    rintro v hv ⟨w, rfl⟩
    exact hnot (by simpa using hv)
  cases hx with
  | nil => exact absurd rfl hxs
  | cons hs hx =>
    cases hy with
    | nil => exact absurd rfl hys
    | cons ht hy =>
      rw [toList_intercalate_cons, toList_intercalate_cons, List.append_assoc,
        List.append_assoc] at heq
      obtain ⟨hsame, heq⟩ := h hs ht (ends_pieces hsep _ (hr.mono hstops))
        (ends_pieces hsep _ (hu.mono hstops)) heq
      obtain ⟨hall, hru⟩ := h.pieces hsep hx hy (hr.mono hstops) (hu.mono hstops)
        (hbegins r hr) (hbegins u hu) heq
      exact ⟨by rw [List.map_cons, List.map_cons, hsame, hall], hru⟩

end MetricLayer.Sql
