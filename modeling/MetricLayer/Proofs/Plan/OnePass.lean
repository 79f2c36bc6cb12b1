import MetricLayer.Proofs.Plan.Matching

/-!
# One pass over an expression

An expression is read once from left to right. Text in front of the first name that stands in it
is kept, the longest name that stands there is taken, and reading goes on behind it.
-/
namespace MetricLayer.Kpi

/-- No name stands at the first `n` places of a text behind `front`, but for an empty one at the
very first place where one has been taken already. -/
def Unnamed (fs : List Fact) (again : Bool) (front text : List Char) (n : Nat) : Prop :=
  ∀ f ∈ fs, ∀ before found rest, text = before ++ found ++ rest → before.length < n →
    (again = true → before ++ found ≠ []) → ¬ Stands f (front ++ before) found rest

/-- How a text behind `front` is read: the names found in it, each with the text that is kept in
front of it, and the text that is kept behind the last. `again` says that an empty name has been
taken right there. -/
inductive Scan (fs : List Fact) :
    Bool → List Char → List Char → List (List Char × List Char) → List Char → Prop
  | done {again : Bool} {front text : List Char} : Unnamed fs again front text (text.length + 1) →
      Scan fs again front text [] text
  | next {again : Bool} {front kept found rest last : List Char}
      {ms : List (List Char × List Char)} :
      Unnamed fs again front (kept ++ found ++ rest) kept.length →
      (again = true → kept ++ found ≠ []) →
      (∃ f ∈ fs, Stands f (front ++ kept) found rest) → Longest fs (front ++ kept) found rest →
      Scan fs found.isEmpty (front ++ kept ++ found) rest ms last →
      Scan fs again front (kept ++ found ++ rest) ((kept, found) :: ms) last

/-- A text is made of what is kept of it and the names found in it. -/
theorem Scan.text_eq {fs : List Fact} {again : Bool} {front text last : List Char}
    {ms : List (List Char × List Char)} (h : Scan fs again front text ms last) :
    text = ms.flatMap (fun m => m.1 ++ m.2) ++ last := by
  induction h with
  | done _ => rfl
  | next _ _ _ _ _ ih => simp [← ih]

/-- What is found in a text is read as the name of a fact. -/
lemma Scan.reads {fs : List Fact} {again : Bool} {front text last : List Char}
    {ms : List (List Char × List Char)} (h : Scan fs again front text ms last) :
    ∀ m ∈ ms, ∃ f ∈ fs, Reads f m.2 := by
  induction h with
  | done _ => exact nofun
  | next _ _ hstands _ _ ih =>
    obtain ⟨f, hf, hstands⟩ := hstands
    exact List.forall_mem_cons.mpr ⟨⟨f, hf, hstands.reads⟩, ih⟩

/-- A name that stands in a text is not in front of the places where none stands. -/
lemma Unnamed.le {fs : List Fact} {again : Bool} {front before found rest : List Char} {n : Nat}
    (h : Unnamed fs again front (before ++ found ++ rest) n)
    (hagain : again = true → before ++ found ≠ [])
    (hstands : ∃ f ∈ fs, Stands f (front ++ before) found rest) : n ≤ before.length := by
  by_contra hlt
  obtain ⟨f, hf, hstands⟩ := hstands
  exact h f hf before found rest rfl (Nat.lt_of_not_le hlt) hagain hstands

/-- At most one of two names is the longest at a place. -/
lemma Longest.unique {fs : List Fact} {front found rest found' rest' : List Char}
    (heq : found ++ rest = found' ++ rest') (h : Longest fs front found rest)
    (h' : Longest fs front found' rest') (hstands : ∃ f ∈ fs, Stands f front found rest)
    (hstands' : ∃ f ∈ fs, Stands f front found' rest') : found = found' ∧ rest = rest' := by
  obtain ⟨f, hf, hstands⟩ := hstands
  obtain ⟨f', hf', hstands'⟩ := hstands'
  have hle := h f' hf' found' rest' heq hstands'
  have hge := h' f hf found rest heq.symm hstands
  exact List.append_inj heq (Nat.le_antisymm hge hle)

/-- A text is read in one way only. -/
theorem Scan.unique {fs : List Fact} {again : Bool} {front text text' last last' : List Char}
    {ms ms' : List (List Char × List Char)} (h : Scan fs again front text ms last)
    (h' : Scan fs again front text' ms' last') (heq : text = text') : ms = ms' ∧ last = last' := by
  induction h generalizing text' ms' last' with
  | done hnone =>
    cases h' with
    | done _ => exact ⟨rfl, heq⟩
    | next _ hagain hstands _ _ =>
      subst heq
      have hle := hnone.le hagain hstands
      simp only [List.length_append] at hle
      omega
  | @next _ _ kept found rest _ _ hnone hagain hstands hlongest _ ih =>
    cases h' with
    | done hnone' =>
      subst heq
      have hle := hnone'.le hagain hstands
      simp only [List.length_append] at hle
      omega
    | @next _ _ kept' found' rest' _ _ hnone' hagain' hstands' hlongest' hrest' =>
      have hle : kept.length ≤ kept'.length := by
        rw [heq] at hnone
        exact hnone.le hagain' hstands'
      have hge : kept'.length ≤ kept.length := by
        rw [← heq] at hnone'
        exact hnone'.le hagain hstands
      rw [List.append_assoc, List.append_assoc] at heq
      obtain ⟨rfl, htail⟩ := List.append_inj heq (Nat.le_antisymm hle hge)
      obtain ⟨rfl, rfl⟩ := hlongest.unique htail hlongest' hstands hstands'
      obtain ⟨rfl, rfl⟩ := ih hrest' rfl
      exact ⟨rfl, rfl⟩

/-! ### Pieces -/

/-- The pieces of a text that is read. -/
def piecesOf (ms : List (List Char × List Char)) (last : List Char) : List Piece :=
  ms.flatMap (fun m => m.1.map .char ++ [.name m.2]) ++ last.map .char

@[simp] lemma piecesOf_cons (kept found : List Char) (ms : List (List Char × List Char))
    (last : List Char) : piecesOf ((kept, found) :: ms) last =
      kept.map .char ++ .name found :: piecesOf ms last := by
  simp [piecesOf]

/-- No name stands at a place. -/
lemma unnamed_one {fs : List Fact} {again : Bool} {front text : List Char}
    (h : ∀ f ∈ fs, ∀ found rest, text = found ++ rest → (again = true → found ≠ []) →
      ¬ Stands f front found rest) : Unnamed fs again front text 1 := by
  intro f hf before found rest heq hlt hagain
  obtain rfl := List.length_eq_zero_iff.mp (Nat.lt_one_iff.mp hlt)
  rw [List.append_nil]
  exact h f hf found rest heq hagain

lemma Unnamed.cons {fs : List Fact} {again : Bool} {front cs : List Char} {c : Char} {n : Nat}
    (hhere : Unnamed fs again front (c :: cs) 1) (h : Unnamed fs false (front ++ [c]) cs n) :
    Unnamed fs again front (c :: cs) (n + 1) := by
  intro f hf before found rest heq hlt hagain
  cases before with
  | nil => exact hhere f hf [] found rest heq Nat.one_pos hagain
  | cons b before =>
    obtain ⟨rfl, rfl⟩ := List.cons.inj heq
    simpa using h f hf before found rest rfl (by simpa using hlt) nofun

/-- A text is read like the rest of it, if no name is taken at its first character. -/
lemma Scan.cons {fs : List Fact} {again : Bool} {front cs last : List Char} {c : Char}
    {ms : List (List Char × List Char)} (hhere : Unnamed fs again front (c :: cs) 1)
    (h : Scan fs false (front ++ [c]) cs ms last) :
    ∃ ms' last', Scan fs again front (c :: cs) ms' last' ∧
      piecesOf ms' last' = .char c :: piecesOf ms last := by
  cases h with
  | done hnone => exact ⟨[], c :: cs, .done (hhere.cons hnone), rfl⟩
  | @next _ _ kept found rest _ ms hnone _ hstands hlongest hrest =>
    refine ⟨(c :: kept, found) :: ms, last, ?_, rfl⟩
    have hfront : front ++ [c] ++ kept = front ++ c :: kept := by simp
    rw [hfront] at hstands hlongest hrest
    exact .next (hhere.cons hnone) (fun _ => List.cons_ne_nil _ _) hstands hlongest hrest

/-- A name is taken at the place itself. -/
lemma Scan.here {fs : List Fact} {again : Bool} {front found rest last : List Char}
    {ms : List (List Char × List Char)} (hagain : again = true → found ≠ [])
    (hstands : ∃ f ∈ fs, Stands f front found rest) (hlongest : Longest fs front found rest)
    (h : Scan fs found.isEmpty (front ++ found) rest ms last) :
    Scan fs again front (found ++ rest) (([], found) :: ms) last := by
  have hnone : Unnamed fs again front ([] ++ found ++ rest) 0 :=
    fun _ _ _ _ _ _ hlt => absurd hlt (Nat.not_lt_zero _)
  rw [← List.append_nil front] at hstands hlongest h
  exact .next hnone hagain hstands hlongest h

/-- Where the empty name is the longest, no other stands. -/
lemma Longest.unnamed {fs : List Fact} {front text : List Char} (h : Longest fs front [] text) :
    Unnamed fs true front text 1 :=
  unnamed_one fun f hf other after heq hother hstands =>
    hother rfl (List.length_eq_zero_iff.mp (Nat.le_zero.mp (h f hf other after heq hstands)))

/-- The pieces of a text are those of the way it is read. -/
theorem scan_pieces (fs : List Fact) (front text : List Char) :
    ∃ ms last, Scan fs false front text ms last ∧
      pieces (namesByLength (byName fs)) front.getLast? text = piecesOf ms last := by
  rw [pieces.eq_def]
  cases hplace : matchHere? (namesByLength (byName fs)) front.getLast? text with
  | none =>
    have hhere : Unnamed fs false front text 1 :=
      unnamed_one fun f hf found rest heq _ => matchHere?_eq_none hplace f hf found rest heq
    cases text with
    | nil => exact ⟨[], [], .done hhere, rfl⟩
    | cons c cs =>
      obtain ⟨ms, last, hscan, hpieces⟩ := scan_pieces fs (front ++ [c]) cs
      rw [List.getLast?_concat] at hpieces
      obtain ⟨ms', last', hscan', hcons⟩ := Scan.cons hhere hscan
      exact ⟨ms', last', hscan', by rw [hcons, ← hpieces]⟩
  | some n =>
    obtain ⟨found, rest, rfl, rfl, hstands, hlongest⟩ := matchHere?_eq_some hplace
    cases found with
    | nil =>
      cases rest with
      | nil =>
        exact ⟨[([], [])], [], .here nofun hstands hlongest
          (by simpa using Scan.done hlongest.unnamed), rfl⟩
      | cons c cs =>
        obtain ⟨ms, last, hscan, hpieces⟩ := scan_pieces fs (front ++ [c]) cs
        rw [List.getLast?_concat] at hpieces
        obtain ⟨ms', last', hscan', hcons⟩ := Scan.cons hlongest.unnamed hscan
        refine ⟨([], []) :: ms', last', .here nofun hstands hlongest (by simpa using hscan'), ?_⟩
        rw [piecesOf_cons, hcons, ← hpieces]
        rfl
    | cons c found =>
      obtain ⟨ms, last, hscan, hpieces⟩ := scan_pieces fs (front ++ c :: found) rest
      refine ⟨([], c :: found) :: ms, last, .here nofun hstands hlongest hscan, ?_⟩
      rw [piecesOf_cons, ← hpieces, ← lastOr_getLast?]
      simp
termination_by text.length

/-- Every text can be read. -/
lemma exists_scan (fs : List Fact) (text : List Char) :
    ∃ ms last, Scan fs false [] text ms last := by
  obtain ⟨ms, last, h, _⟩ := scan_pieces fs [] text
  exact ⟨ms, last, h⟩

/-- The pieces of a text that is read as a whole. -/
lemma Scan.pieces_eq {fs : List Fact} {text last : List Char} {ms : List (List Char × List Char)}
    (h : Scan fs false [] text ms last) :
    pieces (namesByLength (byName fs)) none text = piecesOf ms last := by
  obtain ⟨ms', last', h', hpieces⟩ := scan_pieces fs [] text
  obtain ⟨rfl, rfl⟩ := h.unique h' rfl
  exact hpieces

end MetricLayer.Kpi
