import MetricLayer.Proofs.Keyed
import MetricLayer.Proofs.Plan.OnePass
import MetricLayer.Proofs.Sql.Aggregate

/-!
# Expanding derived metrics

Each name that is found in an expression gives way to the aggregate of the first fact of that
name in lower case. The text found need not have the lower-case form of a name, since names are
found character by character: then there is no such fact. An expression is refused if it mentions
none of the facts that are defined, and fails if the dialect cannot write the aggregate of one.
-/
namespace MetricLayer.Kpi

deriving instance DecidableEq for Expansion

/-- The aggregate that a derived metric takes of a fact. -/
def aggregate (sumOnly : Bool) (f : Fact) : Aggregation :=
  if sumOnly then .sum else f.aggregation

/-- A name found in an expression, with the text kept in front of it, the fact that it refers to
and the SQL in its place. -/
structure Cut where
  kept : List Char
  found : List Char
  fact : Fact
  sql : String

/-- The fact of a name is the first whose name has the same lower-case form. -/
def factOf? (fs : List Fact) (found : List Char) : Option Fact :=
  fs.find? fun f => Text.lower f.name == Text.lower (String.ofList found)

/-- Puts the aggregate of a fact in the place of a name that is found. -/
def fill (d : Dialect) (sumOnly : Bool) (fs : List Fact) (m : List Char × List Char) :
    Except Fault Cut :=
  match factOf? fs m.2 with
  | none => .error .unknownName
  | some f => fragment d sumOnly f >>= fun s => .ok ⟨m.1, m.2, f, s⟩

/-- A cut has the aggregate of the fact that its name refers to. -/
structure Cut.Filled (d : Dialect) (sumOnly : Bool) (fs : List Fact) (c : Cut) : Prop where
  fact_eq : factOf? fs c.found = some c.fact
  sql_eq : fragment d sumOnly c.fact = .ok c.sql

lemma fill_eq_ok_iff {d : Dialect} {sumOnly : Bool} {fs : List Fact}
    {m : List Char × List Char} {c : Cut} :
    fill d sumOnly fs m = .ok c ↔ (c.kept, c.found) = m ∧ c.Filled d sumOnly fs := by
  unfold fill
  constructor
  · intro h
    split at h
    · cases h
    · rename_i f hfact
      obtain ⟨s, hs, h⟩ := bind_eq_ok h
      obtain rfl := Except.ok.inj h
      exact ⟨rfl, hfact, hs⟩
  · rintro ⟨rfl, hfilled⟩
    simp only [hfilled.fact_eq, hfilled.sql_eq]
    rfl

lemma fragment_eq_error {d : Dialect} {sumOnly : Bool} {f : Fact} {x : Fault}
    (h : fragment d sumOnly f = .error x) : x = Sql.noMedian d :=
  Sql.render_aggregate_error (a := aggregate sumOnly f) h

/-- MySQL cannot write the aggregate of a fact that is measured by a median. -/
lemma fragment_median {sumOnly : Bool} {f : Fact} (h : aggregate sumOnly f = .median) :
    fragment .mysql sumOnly f = .error (Sql.noMedian .mysql) := by
  rcases Sql.render_aggregate_mysql (aggregate sumOnly f) f.column f.table with ⟨_, hx⟩ | ⟨hne, _⟩
  · exact hx
  · exact absurd h hne

lemma fill_eq_error {d : Dialect} {sumOnly : Bool} {fs : List Fact}
    {m : List Char × List Char} {x : Fault} (h : fill d sumOnly fs m = .error x) :
    x = .unknownName ∨ x = Sql.noMedian d := by
  unfold fill at h
  split at h
  · exact .inl (Except.error.inj h).symm
  · rcases bind_eq_error h with h | ⟨_, _, h⟩
    · exact .inr (fragment_eq_error h)
    · cases h

lemma fill_eq_unknownName_iff (d : Dialect) (sumOnly : Bool) {fs : List Fact}
    {m : List Char × List Char} :
    fill d sumOnly fs m = .error .unknownName ↔ factOf? fs m.2 = none := by
  unfold fill
  constructor
  · intro h
    split at h
    · assumption
    · rcases bind_eq_error h with h | ⟨_, _, h⟩
      · cases fragment_eq_error h
      · cases h
  · intro h
    rw [h]

/-- What is expanded so far, followed by the cuts of an expression and the text kept behind
them. -/
def assemble (e : Expansion) (cuts : List Cut) (last : List Char) : Expansion :=
  ⟨e.sql ++ String.ofList (cuts.flatMap (fun c => c.kept ++ c.sql.toList) ++ last),
    cuts.foldl (fun known c => addFact known c.fact) e.facts⟩

lemma assemble_cons (e : Expansion) (c : Cut) (cuts : List Cut) (last : List Char) :
    assemble e (c :: cuts) last =
      assemble ⟨e.sql ++ String.ofList c.kept ++ c.sql, addFact e.facts c.fact⟩ cuts last := by
  simp [assemble, ← String.toList_inj]

/-! ### Pieces in order -/

lemma expandPieces_kept (d : Dialect) (sumOnly : Bool) (known : List (String × Fact))
    (e : Expansion) (cs : List Char) (ps : List Piece) :
    expandPieces d sumOnly known e (cs.map .char ++ ps) =
      expandPieces d sumOnly known { e with sql := e.sql ++ String.ofList cs } ps := by
  induction cs generalizing e with
  | nil => simp
  | cons c cs ih =>
    have hsql : e.sql.push c ++ String.ofList cs = e.sql ++ String.ofList (c :: cs) := by
      simp [← String.toList_inj]
    rw [List.map_cons, List.cons_append, ← hsql]
    exact ih { e with sql := e.sql.push c }

lemma expandPieces_name (d : Dialect) (sumOnly : Bool) (fs : List Fact) (e : Expansion)
    (m : List Char × List Char) (ps : List Piece) :
    expandPieces d sumOnly (byName fs) e (.name m.2 :: ps) =
      fill d sumOnly fs m >>= fun c =>
        expandPieces d sumOnly (byName fs) ⟨e.sql ++ c.sql, addFact e.facts c.fact⟩ ps := by
  rw [expandPieces, expandPiece, find?_byName, fill, factOf?]
  cases fs.find? fun f => Text.lower f.name == Text.lower (String.ofList m.2) with
  | none => rfl
  | some f => simp only [Option.map_some, bind_assoc]; rfl

lemma expandPieces_piecesOf (d : Dialect) (sumOnly : Bool) (fs : List Fact) (e : Expansion)
    (ms : List (List Char × List Char)) (last : List Char) :
    expandPieces d sumOnly (byName fs) e (piecesOf ms last) =
      ms.mapM (fill d sumOnly fs) >>= fun cuts => .ok (assemble e cuts last) := by
  induction ms generalizing e with
  | nil =>
    have hkept := expandPieces_kept d sumOnly (byName fs) e last []
    rw [List.append_nil] at hkept
    simp [piecesOf, hkept, assemble, expandPieces]
  | cons m ms ih =>
    rw [piecesOf_cons, expandPieces_kept, expandPieces_name _ _ _ _ m, List.mapM_cons]
    cases hfill : fill d sumOnly fs m with
    | error x => rfl
    | ok c =>
      obtain ⟨rfl, _⟩ := fill_eq_ok_iff.mp hfill
      simp only [ih, bind_assoc, pure_bind, assemble_cons]
      rfl

/-! ### Whole expressions -/

lemma isEmpty_byName (fs : List Fact) : (byName fs).isEmpty = fs.isEmpty := by
  cases fs with
  | nil => rfl
  | cons f fs =>
    have hentry := find?_byName (f :: fs) (Text.lower f.name)
    rw [List.find?_cons, beq_self_eq_true] at hentry
    cases hknown : byName (f :: fs) with
    | nil =>
      rw [hknown] at hentry
      cases hentry
    | cons _ _ => rfl

lemma facts_assemble (cuts : List Cut) (last : List Char) :
    (assemble ⟨"", []⟩ cuts last).facts =
      (cuts.map (·.fact)).eraseDupsBy fun f g => g.id == f.id := by
  rw [← foldl_keepFirst, List.foldl_map]
  rfl

lemma facts_assemble_isEmpty (cuts : List Cut) (last : List Char) :
    (assemble ⟨"", []⟩ cuts last).facts.isEmpty = cuts.isEmpty := by
  rw [facts_assemble]
  cases cuts with
  | nil => rfl
  | cons c cuts => rw [List.map_cons, List.eraseDupsBy_cons]; rfl

/-- How an expression is refused that mentions none of the facts. -/
def refusal (fs : List Fact) (expression : String) : Fault :=
  .failure (.invalidReference "KPI expression" expression
    (some (if fs.isEmpty then "no facts defined" else "does not reference any known fact")))

/-- An expression is read, and the names found in it are replaced in order; it is refused if none
is found. -/
theorem expand_eq (d : Dialect) (sumOnly : Bool) {expression : String} {fs : List Fact}
    {ms : List (List Char × List Char)} {last : List Char}
    (h : Scan fs false [] expression.toList ms last) :
    expand d sumOnly expression fs = ms.mapM (fill d sumOnly fs) >>= fun cuts =>
      if cuts.isEmpty then .error (refusal fs expression)
      else .ok (assemble ⟨"", []⟩ cuts last) := by
  simp only [expand, refusal, isEmpty_byName, h.pieces_eq, expandPieces_piecesOf, bind_assoc]
  cases hfs : fs.isEmpty with
  | true =>
    obtain rfl := List.isEmpty_iff.mp hfs
    have hms : ms = [] := by
      rw [List.eq_nil_iff_forall_not_mem]
      intro m hm
      obtain ⟨f, hf, _⟩ := h.reads m hm
      cases hf
    rw [hms]
    rfl
  | false =>
    simp only [Bool.false_eq_true, if_false]
    cases ms.mapM (fill d sumOnly fs) with
    | error x => rfl
    | ok cuts =>
      change (if (assemble ⟨"", []⟩ cuts last).facts.isEmpty then _ else _) = _
      rw [facts_assemble_isEmpty]
      cases cuts <;> rfl

/-- An expansion of an expression: one pass over the text finds at least one name, each name gives
way to the aggregate of its fact, and all other text stays. -/
structure Expands (d : Dialect) (sumOnly : Bool) (fs : List Fact) (expression : String)
    (e : Expansion) (cuts : List Cut) (last : List Char) : Prop where
  scan : Scan fs false [] expression.toList (cuts.map fun c => (c.kept, c.found)) last
  text_eq : expression.toList = cuts.flatMap (fun c => c.kept ++ c.found) ++ last
  cuts_ne_nil : cuts ≠ []
  filled : ∀ c ∈ cuts, c.Filled d sumOnly fs
  sql_eq : e.sql.toList = cuts.flatMap (fun c => c.kept ++ c.sql.toList) ++ last
  facts_eq : e.facts = (cuts.map (·.fact)).eraseDupsBy fun f g => g.id == f.id

/-- A fact of an expansion is the one of a name that is found. -/
lemma Expands.exists_cut {d : Dialect} {sumOnly : Bool} {fs : List Fact} {expression : String}
    {e : Expansion} {cuts : List Cut} {last : List Char}
    (h : Expands d sumOnly fs expression e cuts last) {f : Fact} (hf : f ∈ e.facts) :
    ∃ c ∈ cuts, c.fact = f := by
  rw [h.facts_eq] at hf
  exact List.mem_map.mp ((eraseDupsBy_sublist _ _).subset hf)

lemma mapM_fill_iff {d : Dialect} {sumOnly : Bool} {fs : List Fact}
    {ms : List (List Char × List Char)} {cuts : List Cut} :
    ms.mapM (fill d sumOnly fs) = .ok cuts ↔
      cuts.map (fun c => (c.kept, c.found)) = ms ∧ ∀ c ∈ cuts, c.Filled d sumOnly fs := by
  constructor
  · intro h
    have hall := mapM_eq_ok h
    clear h
    induction hall with
    | nil => exact ⟨rfl, nofun⟩
    | cons hm _ ih =>
      obtain ⟨rfl, hc⟩ := fill_eq_ok_iff.mp hm
      obtain ⟨rfl, hcs⟩ := ih
      exact ⟨rfl, List.forall_mem_cons.mpr ⟨hc, hcs⟩⟩
  · rintro ⟨rfl, hfilled⟩
    refine mapM_of_forall₂ (List.forall₂_map_left_iff.mpr (List.forall₂_same.mpr ?_))
    exact fun c hc => fill_eq_ok_iff.mpr ⟨rfl, hfilled c hc⟩

/-- An expression is expanded exactly if it has an expansion. -/
lemma expand_eq_ok_iff {d : Dialect} {sumOnly : Bool} {expression : String} {fs : List Fact}
    {e : Expansion} : expand d sumOnly expression fs = .ok e ↔
      ∃ cuts last, Expands d sumOnly fs expression e cuts last := by
  constructor
  · intro h
    obtain ⟨ms, last, hscan⟩ := exists_scan fs expression.toList
    rw [expand_eq d sumOnly hscan] at h
    obtain ⟨cuts, hcuts, hresult⟩ := bind_eq_ok h
    obtain ⟨rfl, hfilled⟩ := mapM_fill_iff.mp hcuts
    split at hresult
    · cases hresult
    · rename_i hne
      obtain rfl := Except.ok.inj hresult
      exact ⟨cuts, last, hscan, by simpa [List.flatMap_map] using hscan.text_eq, by simpa using hne,
        hfilled, by simp [assemble], facts_assemble cuts last⟩
  · rintro ⟨cuts, last, h⟩
    rw [expand_eq d sumOnly h.scan, mapM_fill_iff.mpr ⟨rfl, h.filled⟩]
    have hsql : (assemble ⟨"", []⟩ cuts last).sql = e.sql := by
      rw [← String.toList_inj, h.sql_eq]
      simp [assemble]
    have hfacts : (assemble ⟨"", []⟩ cuts last).facts = e.facts := by
      rw [h.facts_eq, facts_assemble]
    change (if cuts.isEmpty then _ else Except.ok (assemble ⟨"", []⟩ cuts last)) = Except.ok e
    rw [if_neg (by simpa using h.cuts_ne_nil)]
    exact congrArg Except.ok (congrArg₂ Expansion.mk hsql hfacts)

/-- Why an expression has no expansion: a name that is found cannot be replaced, or none is
found. -/
lemma expand_eq_error_iff {d : Dialect} {sumOnly : Bool} {expression : String} {fs : List Fact}
    {ms : List (List Char × List Char)} {last : List Char}
    (h : Scan fs false [] expression.toList ms last) {x : Fault} :
    expand d sumOnly expression fs = .error x ↔
      ms.mapM (fill d sumOnly fs) = .error x ∨ ms = [] ∧ x = refusal fs expression := by
  rw [expand_eq d sumOnly h]
  constructor
  · intro hx
    rcases bind_eq_error hx with hfail | ⟨cuts, hcuts, hresult⟩
    · exact .inl hfail
    · obtain ⟨rfl, _⟩ := mapM_fill_iff.mp hcuts
      split at hresult
      · rename_i hnil
        rw [List.isEmpty_iff.mp hnil]
        exact .inr ⟨rfl, (Except.error.inj hresult).symm⟩
      · cases hresult
  · rintro (hx | ⟨rfl, rfl⟩)
    · rw [hx]
      rfl
    · rfl

/-- A name that cannot be replaced is no reason to refuse the expression. -/
lemma mapM_fill_ne_refusal {d : Dialect} {sumOnly : Bool} {fs : List Fact}
    {ms : List (List Char × List Char)} {expression : String} :
    ms.mapM (fill d sumOnly fs) ≠ .error (refusal fs expression) := by
  intro h
  obtain ⟨m, _, hfill⟩ := mapM_eq_error h
  rcases fill_eq_error hfill with h | h <;> cases h

/-- An expression is refused exactly if the name of no fact stands in it. -/
lemma expand_eq_refusal_iff {d : Dialect} {sumOnly : Bool} {expression : String}
    {fs : List Fact} :
    expand d sumOnly expression fs = .error (refusal fs expression) ↔
      ∀ f ∈ fs, ∀ front found rest, expression.toList = front ++ found ++ rest →
        ¬ Stands f front found rest := by
  obtain ⟨ms, last, hscan⟩ := exists_scan fs expression.toList
  rw [expand_eq_error_iff hscan, or_iff_right mapM_fill_ne_refusal, and_iff_left rfl]
  generalize expression.toList = text at hscan ⊢
  cases hscan with
  | done hnone =>
    refine ⟨fun _ f hf front found rest heq => hnone f hf front found rest heq ?_ nofun,
      fun _ => rfl⟩
    simp only [heq, List.length_append]
    omega
  | next _ _ hstands _ _ =>
    obtain ⟨f, hf, hstands⟩ := hstands
    exact ⟨nofun, fun hnone => absurd hstands (hnone f hf _ _ _ rfl)⟩

/-! ### Facts of an expansion -/

/-- A derived metric is expanded to facts among those that are defined. -/
theorem mem_expand {d : Dialect} {sumOnly : Bool} {expression : String} {fs : List Fact}
    {e : Expansion} (h : expand d sumOnly expression fs = .ok e) : e.facts ⊆ fs := by
  obtain ⟨cuts, last, h⟩ := expand_eq_ok_iff.mp h
  intro f hf
  obtain ⟨c, hc, rfl⟩ := h.exists_cut hf
  exact List.mem_of_find?_eq_some (h.filled c hc).fact_eq

/-- An expression that mentions none of the facts is refused. -/
theorem expand_unmentioned {expression : String} {fs : List Fact}
    (h : ∀ f ∈ fs, ¬ Mentions none expression.toList (Text.lower f.name).toList) (d : Dialect)
    (sumOnly : Bool) : expand d sumOnly expression fs = .error (refusal fs expression) :=
  expand_eq_refusal_iff.mpr fun f hf front found rest heq hstands =>
    h f hf (mentions_iff.mpr ⟨front, found, rest, heq, hstands⟩)

/-- A derived metric that is measured by a median has no expansion in MySQL. -/
theorem expand_median {d : Dialect} {sumOnly : Bool} {expression : String} {fs : List Fact}
    {e : Expansion} (h : expand d sumOnly expression fs = .ok e) {f : Fact} (hf : f ∈ e.facts)
    (hmedian : aggregate sumOnly f = .median) :
    expand .mysql sumOnly expression fs = .error (Sql.noMedian .mysql) := by
  obtain ⟨cuts, last, h⟩ := expand_eq_ok_iff.mp h
  obtain ⟨c, hc, rfl⟩ := h.exists_cut hf
  refine (expand_eq_error_iff h.scan).mpr (.inl ?_)
  cases hfill : (cuts.map fun c => (c.kept, c.found)).mapM (fill .mysql sumOnly fs) with
  | ok cuts' =>
    obtain ⟨c', _, hc'⟩ := exists_of_mapM hfill (List.mem_map_of_mem hc)
    obtain ⟨heq, hfilled⟩ := fill_eq_ok_iff.mp hc'
    have hfact := (Prod.mk.inj heq).2 ▸ hfilled.fact_eq
    rw [(h.filled c hc).fact_eq] at hfact
    have hsql := hfilled.sql_eq
    rw [← Option.some.inj hfact, fragment_median hmedian] at hsql
    cases hsql
  | error x =>
    obtain ⟨m, hm, hx⟩ := mapM_eq_error hfill
    obtain ⟨c, hc, rfl⟩ := List.mem_map.mp hm
    rcases fill_eq_error hx with rfl | rfl
    · have hnone := (fill_eq_unknownName_iff .mysql sumOnly).mp hx
      rw [(h.filled c hc).fact_eq] at hnone
      cases hnone
    · rfl

end MetricLayer.Kpi
