import Mathlib.Data.List.Forall2
import MetricLayer.Plan.Kpi

/-!
# Names in an expression

A name stands at a place of an expression if its text is there, up to the case of the characters,
and is a whole word. Of the names that stand at a place the longest is found.
-/
namespace MetricLayer.Kpi

/-- A text is the name of a fact, up to the case of its characters. -/
def Reads (f : Fact) (text : List Char) : Prop :=
  List.Forall₂ (fun p c => Text.matchesCaseless p c = true) (Text.lower f.name).toList text

/-- Between `front` and `rest`, the name of a fact is `found` as a whole word. -/
structure Stands (f : Fact) (front found rest : List Char) : Prop where
  reads : Reads f found
  edge_before : atEdge front.getLast? = true
  edge_after : atEdge rest.head? = true

/-- Behind `front`, no fact has a name that stands there and is longer than `found`. -/
def Longest (fs : List Fact) (front found rest : List Char) : Prop :=
  ∀ f ∈ fs, ∀ other after, found ++ rest = other ++ after → Stands f front other after →
    other.length ≤ found.length

/-! ### Known names -/

lemma mem_byName {fs : List Fact} {name : String} {f : Fact} (h : (name, f) ∈ byName fs) :
    f ∈ fs ∧ name = Text.lower f.name := by
  have hall : ∀ known : List (String × Fact), ∀ e ∈ fs.foldl (fun known f =>
      let name := Text.lower f.name
      if known.any (·.1 == name) then known else known ++ [(name, f)]) known,
      e ∈ known ∨ e.2 ∈ fs ∧ e.1 = Text.lower e.2.name := by
    clear h
    induction fs with
    | nil => exact fun known e he => .inl he
    | cons g fs ih =>
      intro known e he
      rcases ih _ e he with hin | hin
      · dsimp only at hin
        split at hin
        · exact .inl hin
        · rcases List.mem_append.mp hin with hin | hin
          · exact .inl hin
          · rw [List.mem_singleton.mp hin]
            exact .inr ⟨List.mem_cons_self, rfl⟩
      · exact .inr ⟨List.mem_cons_of_mem _ hin.1, hin.2⟩
  rcases hall [] _ h with hin | hin
  · cases hin
  · exact hin

/-- The entry of a lower-case name is the first fact of that name. -/
lemma find?_byName (fs : List Fact) (key : String) :
    (byName fs).find? (·.1 == key) =
      (fs.find? fun f => Text.lower f.name == key).map (key, ·) := by
  have hall : ∀ known : List (String × Fact), (fs.foldl (fun known f =>
      let name := Text.lower f.name
      if known.any (·.1 == name) then known else known ++ [(name, f)]) known).find? (·.1 == key) =
      (known.find? (·.1 == key)).or
        ((fs.find? fun f => Text.lower f.name == key).map (key, ·)) := by
    induction fs with
    | nil => simp
    | cons f fs ih =>
      intro known
      rw [List.foldl_cons, ih, List.find?_cons]
      dsimp only
      cases hkey : Text.lower f.name == key with
      | false =>
        split
        · rfl
        · simp [List.find?_append, hkey]
      | true =>
        obtain rfl : Text.lower f.name = key := eq_of_beq hkey
        split
        · rename_i hknown
          obtain ⟨e, he⟩ := Option.isSome_iff_exists.mp
            (List.find?_isSome.mpr (List.any_eq_true.mp hknown))
          rw [he, Option.some_or, Option.some_or]
        · simp [List.find?_append]
  exact hall []

lemma mem_namesByLength {fs : List Fact} {n : List Char} :
    n ∈ namesByLength (byName fs) ↔ ∃ f ∈ fs, (Text.lower f.name).toList = n := by
  rw [namesByLength, List.mem_mergeSort, List.mem_map]
  constructor
  · rintro ⟨⟨name, f⟩, hknown, rfl⟩
    obtain ⟨hf, rfl⟩ := mem_byName hknown
    exact ⟨f, hf, rfl⟩
  · rintro ⟨f, hf, rfl⟩
    have hname : (fs.find? fun g => Text.lower g.name == Text.lower f.name).isSome :=
      List.find?_isSome.mpr ⟨f, hf, beq_self_eq_true _⟩
    obtain ⟨g, hg⟩ := Option.isSome_iff_exists.mp hname
    have hentry := find?_byName fs (Text.lower f.name)
    rw [hg] at hentry
    exact ⟨_, List.mem_of_find?_eq_some hentry, rfl⟩

lemma namesByLength_sorted (known : List (String × Fact)) :
    (namesByLength known).Pairwise fun s t => t.length ≤ s.length := by
  have hsorted : (namesByLength known).Pairwise fun s t => decide (t.length ≤ s.length) = true :=
    List.pairwise_mergeSort
      (fun _ _ _ hab hbc => by simp only [decide_eq_true_eq] at *; omega)
      (fun a b => by simp only [Bool.or_eq_true, decide_eq_true_eq]; omega) _
  simpa only [decide_eq_true_eq] using hsorted

/-! ### Names at one place -/

lemma afterName?_eq_some_iff {name cs rest : List Char} :
    afterName? name cs = some rest ↔ ∃ found, cs = found ++ rest ∧
      List.Forall₂ (fun p c => Text.matchesCaseless p c = true) name found := by
  induction name generalizing cs with
  | nil =>
    rw [afterName?, Option.some_inj]
    constructor
    · rintro rfl
      exact ⟨[], rfl, .nil⟩
    · rintro ⟨found, rfl, hfound⟩
      cases hfound
      rfl
  | cons p ps ih =>
    cases cs with
    | nil =>
      refine ⟨fun h => by simp [afterName?] at h, ?_⟩
      rintro ⟨found, hnil, hfound⟩
      cases hfound
      cases hnil
    | cons c cs =>
      rw [afterName?]
      split
      · rename_i hmatch
        rw [ih]
        constructor
        · rintro ⟨found, rfl, hfound⟩
          exact ⟨c :: found, rfl, .cons hmatch hfound⟩
        · rintro ⟨found, heq, hfound⟩
          cases hfound with
          | @cons _ b _ found _ hfound =>
            obtain ⟨rfl, rfl⟩ := List.cons.inj heq
            exact ⟨found, rfl, hfound⟩
      · rename_i hmatch
        refine ⟨nofun, ?_⟩
        rintro ⟨found, heq, hfound⟩
        cases hfound with
        | @cons _ b _ found hb _ =>
          obtain ⟨rfl, _⟩ := List.cons.inj heq
          exact absurd hb hmatch

/-- Whether a name stands at the head of a text, whatever is in front of it. -/
def standsAhead (cs name : List Char) : Bool :=
  match afterName? name cs with
  | some rest => atEdge rest.head?
  | none => false

lemma matchHere?_eq (names : List (List Char)) (before : Option Char) (cs : List Char) :
    matchHere? names before cs =
      if atEdge before then (names.find? (standsAhead cs)).map (·.length) else none := by
  rfl

lemma standsAhead_iff {f : Fact} {front cs : List Char} (hedge : atEdge front.getLast? = true) :
    standsAhead cs (Text.lower f.name).toList = true ↔
      ∃ found rest, cs = found ++ rest ∧ Stands f front found rest := by
  unfold standsAhead
  constructor
  · intro h
    split at h
    · rename_i rest hafter
      obtain ⟨found, rfl, hreads⟩ := afterName?_eq_some_iff.mp hafter
      exact ⟨found, rest, rfl, hreads, hedge, h⟩
    · cases h
  · rintro ⟨found, rest, rfl, hstands⟩
    rw [afterName?_eq_some_iff.mpr ⟨found, rfl, hstands.reads⟩]
    exact hstands.edge_after

/-- Where nothing is found, no name stands. -/
lemma matchHere?_eq_none {fs : List Fact} {front cs : List Char}
    (h : matchHere? (namesByLength (byName fs)) front.getLast? cs = none) :
    ∀ f ∈ fs, ∀ found rest, cs = found ++ rest → ¬ Stands f front found rest := by
  intro f hf found rest heq hstands
  rw [matchHere?_eq, if_pos hstands.edge_before, Option.map_eq_none_iff, List.find?_eq_none] at h
  exact h _ (mem_namesByLength.mpr ⟨f, hf, rfl⟩)
    ((standsAhead_iff hstands.edge_before).mpr ⟨found, rest, heq, hstands⟩)

/-- What is found at a place is the longest name that stands there. -/
lemma matchHere?_eq_some {fs : List Fact} {front cs : List Char} {n : Nat}
    (h : matchHere? (namesByLength (byName fs)) front.getLast? cs = some n) :
    ∃ found rest, cs = found ++ rest ∧ found.length = n ∧ (∃ f ∈ fs, Stands f front found rest) ∧
      Longest fs front found rest := by
  rw [matchHere?_eq] at h
  split at h
  case isFalse => cases h
  case isTrue hedge =>
    obtain ⟨name, hfind, rfl⟩ := Option.map_eq_some_iff.mp h
    obtain ⟨hstands, longer, shorter, hnames, hlonger⟩ := List.find?_eq_some_iff_append.mp hfind
    obtain ⟨f, hf, rfl⟩ := mem_namesByLength.mp (List.mem_of_find?_eq_some hfind)
    obtain ⟨found, rest, rfl, hfound⟩ := (standsAhead_iff hedge).mp hstands
    refine ⟨found, rest, rfl, hfound.reads.length_eq.symm, ⟨f, hf, hfound⟩, ?_⟩
    intro g hg other after heq hother
    have hahead := (standsAhead_iff hedge).mpr ⟨other, after, heq, hother⟩
    have hmem := mem_namesByLength.mpr ⟨g, hg, rfl⟩
    have hsorted := namesByLength_sorted (byName fs)
    rw [hnames] at hmem hsorted
    rw [← hother.reads.length_eq, ← hfound.reads.length_eq]
    rcases List.mem_append.mp hmem with hmem | hmem
    · simpa [hahead] using hlonger _ hmem
    · rcases List.mem_cons.mp hmem with heq | hmem
      · exact Nat.le_of_eq (congrArg List.length heq)
      · exact (List.pairwise_cons.mp (List.pairwise_append.mp hsorted).2.1).1 _ hmem

/-! ### Names anywhere in a text -/

/-- A name stands as a whole word in a text that comes after a character. -/
def Mentions (before : Option Char) (text name : List Char) : Prop :=
  ∃ front rest after, text = front ++ rest ∧ afterName? name rest = some after ∧
    atEdge (lastOr before front) = true ∧ atEdge after.head? = true

lemma lastOr_getLast? (front taken : List Char) :
    lastOr front.getLast? taken = (front ++ taken).getLast? := by
  rw [lastOr, List.getLast?_append, Option.orElse_eq_or]

/-- A whole text mentions a fact exactly if the name of the fact stands somewhere in it. -/
lemma mentions_iff {f : Fact} {text : List Char} :
    Mentions none text (Text.lower f.name).toList ↔
      ∃ front found rest, text = front ++ found ++ rest ∧ Stands f front found rest := by
  constructor
  · rintro ⟨front, _, rest, rfl, hafter, hbefore, hedge⟩
    obtain ⟨found, rfl, hreads⟩ := afterName?_eq_some_iff.mp hafter
    rw [← List.getLast?_nil, lastOr_getLast?, List.nil_append] at hbefore
    exact ⟨front, found, rest, (List.append_assoc ..).symm, hreads, hbefore, hedge⟩
  · rintro ⟨front, found, rest, rfl, hstands⟩
    refine ⟨front, found ++ rest, rest, List.append_assoc ..,
      afterName?_eq_some_iff.mpr ⟨found, rfl, hstands.reads⟩, ?_, hstands.edge_after⟩
    rw [← List.getLast?_nil, lastOr_getLast?, List.nil_append]
    exact hstands.edge_before

end MetricLayer.Kpi
