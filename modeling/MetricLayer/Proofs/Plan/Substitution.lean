import MetricLayer.Proofs.Plan.Expansion
import MetricLayer.Proofs.Text.Caseless

/-!
# Aggregates in the place of names

What becomes of a derived metric: its expression is read in one pass and expanded, or refused, or
it fails. The names in it are found character by character, and their facts by the lower-case
form of a whole text; where the two differ, a name is missed or has no fact.
-/
namespace MetricLayer.Kpi

/-! ### Names up to letter case -/

/-- A text with the lower-case form of a name is read as that name, if it holds no dotted capital
I. -/
lemma reads_of_lower_eq {f : Fact} {found : List Char} (hdot : 'İ' ∉ found)
    (h : Text.lower (String.ofList found) = Text.lower f.name) : Reads f found := by
  rw [Reads, ← h, Text.lower, String.toList_ofList, String.toList_ofList]
  exact Text.matches_lowerFrom [] hdot

/-- In ASCII, a text is read as a name only if it has the same lower-case form. -/
lemma lower_eq_of_reads {f : Fact} {found : List Char}
    (hname : ∀ c ∈ f.name.toList, c.toNat < 128) (hfound : ∀ c ∈ found, c.toNat < 128)
    (h : Reads f found) : Text.lower f.name = Text.lower (String.ofList found) := by
  rw [Reads, Text.lower, String.toList_ofList] at h
  rw [Text.lower, Text.lower, String.toList_ofList,
    Text.lowerFrom_eq_of_matches hname hfound h]

/-- A derived metric is expanded in one pass: it succeeds exactly with an expansion in which each
name, the longest that stands at the first place where one does, gives way to the aggregate of
the first fact of that name, and it is refused exactly if no name stands in it. A name stands
wherever a whole word has its lower-case form, unless that word holds a dotted capital I. -/
theorem expand_onePass (d : Dialect) (sumOnly : Bool) (expression : String) (fs : List Fact) :
    (∀ e, expand d sumOnly expression fs = .ok e ↔
      ∃ cuts last, Expands d sumOnly fs expression e cuts last) ∧
    (expand d sumOnly expression fs = .error (refusal fs expression) ↔
      ∀ f ∈ fs, ∀ front found rest, expression.toList = front ++ found ++ rest →
        ¬ Stands f front found rest) ∧
    ∀ f front found rest, Text.lower (String.ofList found) = Text.lower f.name → 'İ' ∉ found →
      atEdge front.getLast? = true → atEdge rest.head? = true → Stands f front found rest :=
  ⟨fun _ => expand_eq_ok_iff, expand_eq_refusal_iff,
    fun _ _ _ _ hlower hdot hbefore hafter =>
      ⟨reads_of_lower_eq hdot hlower, hbefore, hafter⟩⟩

/-- Names that are sorted already. -/
lemma namesByLength_of_sorted (fs : List Fact)
    (h : ((byName fs).map (·.1.toList)).Pairwise fun s t => t.length ≤ s.length) :
    namesByLength (byName fs) = (byName fs).map (·.1.toList) := by
  refine List.mergeSort_of_pairwise ?_
  simpa only [decide_eq_true_eq] using h

def netRevenue : Fact := ⟨1, 1, "Net Revenue", "orders", "net", .sum⟩

def revenue : Fact := ⟨2, 1, "Revenue", "orders", "amount", .sum⟩

/-- The longer of two names is taken where both stand. -/
theorem expand_onePass_margin : ∃ cuts last,
    Expands .postgres false [netRevenue, revenue] "net revenue / REVENUE"
      ⟨"SUM(\"orders\".\"net\") / SUM(\"orders\".\"amount\")", [netRevenue, revenue]⟩
      cuts last := by
  refine ((expand_onePass .postgres false _ _).1 _).mp ?_
  rw [expand, namesByLength_of_sorted [netRevenue, revenue] (by decide +kernel)]
  decide +kernel

def cost : Fact := ⟨1, 1, "Cost", "orders", "cost", .sum⟩

/-- A fact whose name is longer in lower case. -/
def province : Fact := ⟨2, 1, "İl", "orders", "amount", .sum⟩

/-- A name with a dotted capital I is not found in the very text of it. -/
theorem dotted_name_missed :
    expand .postgres false "İl + Cost" [cost, province] =
      .ok ⟨"İl + SUM(\"orders\".\"cost\")", [cost]⟩ := by
  rw [expand, namesByLength_of_sorted [cost, province] (by decide +kernel)]
  decide +kernel

/-! ### Outcomes -/

/-- A name that is found has no fact if no fact has a name with the same lower-case form. -/
lemma factOf?_eq_none_iff {fs : List Fact} {found : List Char} :
    factOf? fs found = none ↔
      ∀ f ∈ fs, Text.lower f.name ≠ Text.lower (String.ofList found) := by
  simp [factOf?]

/-- A name is found that has no fact exactly if it is the first name that cannot be replaced. -/
lemma expand_eq_unknownName_iff {d : Dialect} {sumOnly : Bool} {expression : String}
    {fs : List Fact} {ms : List (List Char × List Char)} {last : List Char}
    (h : Scan fs false [] expression.toList ms last) :
    expand d sumOnly expression fs = .error .unknownName ↔
      ∃ before m after, ms = before ++ m :: after ∧
        (∀ b ∈ before, ∃ c, fill d sumOnly fs b = .ok c) ∧
        ∀ f ∈ fs, Text.lower f.name ≠ Text.lower (String.ofList m.2) := by
  have hrefusal : ¬ (ms = [] ∧ Fault.unknownName = refusal fs expression) := nofun
  simp only [← factOf?_eq_none_iff, ← fill_eq_unknownName_iff d sumOnly]
  rw [expand_eq_error_iff h, or_iff_left hrefusal, mapM_eq_error_iff]

/-- In ASCII, each name that is found has a fact. -/
lemma expand_ascii {d : Dialect} {sumOnly : Bool} {expression : String} {fs : List Fact}
    (hnames : ∀ f ∈ fs, ∀ c ∈ f.name.toList, c.toNat < 128)
    (hexpression : ∀ c ∈ expression.toList, c.toNat < 128) :
    expand d sumOnly expression fs ≠ .error .unknownName := by
  obtain ⟨ms, last, hscan⟩ := exists_scan fs expression.toList
  rw [Ne, expand_eq_unknownName_iff hscan]
  rintro ⟨before, m, after, rfl, _, hnone⟩
  have hm : m ∈ before ++ m :: after := by simp
  obtain ⟨f, hf, hreads⟩ := hscan.reads m hm
  refine hnone f hf (lower_eq_of_reads (hnames f hf) (fun c hc => hexpression c ?_) hreads)
  rw [hscan.text_eq]
  exact List.mem_append_left _ (List.mem_flatMap.mpr ⟨m, hm, List.mem_append_right _ hc⟩)

/-- The expansion of a derived metric ends in an expression, in its refusal, in an aggregate that
the dialect cannot write, or at a name that is found and has no fact: the first of the names that
cannot be replaced has a lower-case form that is the one of no fact. Names and expressions in
ASCII never end there. -/
theorem expand_outcome (d : Dialect) (sumOnly : Bool) (expression : String) (fs : List Fact) :
    ((∃ e, expand d sumOnly expression fs = .ok e) ∨
      expand d sumOnly expression fs = .error (refusal fs expression) ∨
      expand d sumOnly expression fs = .error (Sql.noMedian d) ∨
      expand d sumOnly expression fs = .error .unknownName) ∧
    (∃ ms last, Scan fs false [] expression.toList ms last ∧
      (expand d sumOnly expression fs = .error .unknownName ↔
        ∃ before m after, ms = before ++ m :: after ∧
          (∀ b ∈ before, ∃ c, fill d sumOnly fs b = .ok c) ∧
          ∀ f ∈ fs, Text.lower f.name ≠ Text.lower (String.ofList m.2))) ∧
    ((∀ f ∈ fs, ∀ c ∈ f.name.toList, c.toNat < 128) → (∀ c ∈ expression.toList, c.toNat < 128) →
      expand d sumOnly expression fs ≠ .error .unknownName) := by
  obtain ⟨ms, last, hscan⟩ := exists_scan fs expression.toList
  refine ⟨?_, ⟨ms, last, hscan, expand_eq_unknownName_iff hscan⟩, expand_ascii⟩
  cases hresult : expand d sumOnly expression fs with
  | ok e => exact .inl ⟨e, rfl⟩
  | error x =>
    rcases (expand_eq_error_iff hscan).mp hresult with hfail | ⟨_, rfl⟩
    · obtain ⟨m, _, hfill⟩ := mapM_eq_error hfail
      rcases fill_eq_error hfill with rfl | rfl
      · exact .inr (.inr (.inr rfl))
      · exact .inr (.inr (.inl rfl))
    · exact .inr (.inl rfl)

/-- Names in ASCII are looked up without fail. -/
theorem expand_outcome_cost : expand .mysql true "COST - 1" [cost] ≠ .error .unknownName :=
  (expand_outcome .mysql true "COST - 1" [cost]).2.2 (by simp [cost]) (by simp)

/-- A long s is read as an s of a name, and the lower-case form with it is the name of no fact. -/
theorem long_s_unknown : expand .postgres false "Coſt" [cost] = .error .unknownName := by
  cbv

end MetricLayer.Kpi
