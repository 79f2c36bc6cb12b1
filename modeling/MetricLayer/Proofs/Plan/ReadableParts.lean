import MetricLayer.Proofs.Plan.Grammar
import MetricLayer.Proofs.Sql.Aggregate
import MetricLayer.Proofs.Sql.Readable
import MetricLayer.Proofs.Sql.Spelling

/-!
# Parts of planned statements are readable

Names are quoted, the words between them are fixed and none begins another, and conditions are
in parentheses. So every expression that the planners write can be read in its place.
-/
namespace MetricLayer.Plan
open Sql

/-! ### Columns -/

lemma toList_quote (d : Dialect) (name : String) :
    ∃ v, (d.quote name).toList = d.quoteMark :: v :=
  ⟨_, by rw [Dialect.quote, String.toList_ofList]⟩

/-- The text of a column: its quoted name, after that of its table if there is one. -/
lemma toList_column {d : Dialect} {e : Expr} {s : String} (h : Spells d IsColumn e s) :
    (∃ c, e = .column c none ∧ s.toList = (d.quote c).toList) ∨
      ∃ t c, e = .column c (some t) ∧
        s.toList = (d.quote t).toList ++ '.' :: (d.quote c).toList := by
  obtain ⟨⟨c, q⟩, hs⟩ := h
  cases q with
  | none =>
    obtain rfl := Except.ok.inj hs
    exact .inl ⟨c, rfl, rfl⟩
  | some t =>
    obtain rfl := Except.ok.inj hs
    exact .inr ⟨t, c, rfl, by simp⟩

lemma head_column {d : Dialect} {e : Expr} {s : String} (h : Spells d IsColumn e s) :
    ∃ v, s.toList = d.quoteMark :: v := by
  rcases toList_column h with ⟨c, _, hs⟩ | ⟨t, c, _, hs⟩
  · rw [hs]
    exact toList_quote d c
  · obtain ⟨v, hv⟩ := toList_quote d t
    exact ⟨_, by rw [hs, hv, List.cons_append]⟩

/-- What may follow a column. -/
def columnMarks : List Char := [' ', ',', '\n', ')']

lemma name_readable (d : Dialect) :
    Readable ('.' :: columnMarks) (fun name s => s = d.quote name) id :=
  quote_readable d (by cases d <;> decide)

/-- Where a name is all of a column, it is not that of a table. -/
lemma not_table {d : Dialect} {c t : String} {r v : List Char} (hr : Ends columnMarks r) :
    (d.quote c).toList ++ r ≠ (d.quote t).toList ++ '.' :: v := by
  intro h
  have hru := (name_readable d rfl rfl (hr.mono (List.subset_cons_self _ _)) (by simp) h).2
  exact hr.ne_cons (by decide) v hru

lemma column_readable (d : Dialect) : Readable columnMarks (Spells d IsColumn) id := by
  intro e f s s' r u hs hs' hr hu h
  have hr' : Ends ('.' :: columnMarks) r := hr.mono (List.subset_cons_self _ _)
  have hu' : Ends ('.' :: columnMarks) u := hu.mono (List.subset_cons_self _ _)
  rcases toList_column hs with ⟨c, rfl, htext⟩ | ⟨t, c, rfl, htext⟩ <;>
    rcases toList_column hs' with ⟨c', rfl, htext'⟩ | ⟨t', c', rfl, htext'⟩ <;>
    rw [htext, htext'] at h
  · obtain ⟨hc, hru⟩ := name_readable d rfl rfl hr' hu' h
    exact ⟨congrArg (Expr.column · none) hc, hru⟩
  · rw [List.append_assoc] at h
    exact absurd h (not_table hr)
  · rw [List.append_assoc] at h
    exact absurd h.symm (not_table hu)
  · rw [List.append_assoc, List.append_assoc] at h
    obtain ⟨ht, h⟩ := name_readable d rfl rfl (by simp) (by simp) h
    obtain ⟨hc, hru⟩ := name_readable d rfl rfl hr' hu' (List.cons.inj h).2
    exact ⟨congrArg₂ Expr.column hc (congrArg some ht), hru⟩

/-! ### Items of the `SELECT` list -/

/-- What an aggregate of a column begins with. -/
def opening : Aggregation → String
  | .median => "PERCENTILE_CONT(0.5) WITHIN GROUP (ORDER BY "
  | .stddev => "STDDEV_POP("
  | .variance => "VAR_POP("
  | a => a.name ++ "("

lemma toList_aggregate {d : Dialect} {a : Aggregation} {c t s : String}
    (h : (Expr.call a.name [.column c (some t)] false).render d = .ok s) :
    ∃ w, Spells d IsColumn (.column c (some t)) w ∧
      s.toList = (opening a).toList ++ (w.toList ++ [')']) := by
  refine ⟨d.quote t ++ "." ++ d.quote c, ⟨⟨c, some t⟩, rfl⟩, ?_⟩
  rw [Expr.render, writing_aggregate] at h
  cases a with
  | median =>
    cases d with
    | postgres =>
      obtain rfl := Except.ok.inj h
      simp [opening]
    | mysql => cases h
  | stddev =>
    obtain rfl := Except.ok.inj h
    simp [opening]
  | variance =>
    obtain rfl := Except.ok.inj h
    simp [opening]
  | _ =>
    obtain rfl := Except.ok.inj h
    simp [opening, Expr.callText]

lemma opening_inj {a b : Aggregation} {r u : List Char}
    (h : (opening a).toList ++ r = (opening b).toList ++ u) : a = b ∧ r = u := by
  have hwords : ∀ w ∈ Aggregation.all.map (fun a => (opening a).toList),
      ∀ v ∈ Aggregation.all.map (fun a => (opening a).toList), w <+: v → w = v := by decide
  have hmem : ∀ a, (opening a).toList ∈ Aggregation.all.map fun a => (opening a).toList := by
    intro a
    cases a <;> decide
  obtain ⟨hword, hru⟩ := word_inj hwords (hmem a) (hmem b) h
  refine ⟨?_, hru⟩
  cases a <;> cases b <;> first | rfl | exact absurd hword (by decide)

lemma head_opening (a : Aggregation) : ∃ c v, (opening a).toList = c :: v ∧ c.isAlpha := by
  cases a <;> exact ⟨_, _, rfl, by decide⟩

/-- The text of a value begins with a quote mark or a letter. -/
lemma head_value {d : Dialect} {e : Expr} {s : String} (h : Spells d IsValue e s) :
    ∃ c v, s.toList = c :: v ∧ (c = d.quoteMark ∨ c.isAlpha) := by
  rcases h with ⟨he | ⟨a, c, t⟩, hs⟩
  · obtain ⟨v, hv⟩ := head_column ⟨he, hs⟩
    exact ⟨_, v, hv, .inl rfl⟩
  · obtain ⟨w, _, hs⟩ := toList_aggregate hs
    obtain ⟨x, v, hv, hx⟩ := head_opening a
    exact ⟨x, _, by rw [hs, hv, List.cons_append], .inr hx⟩

lemma not_aggregate {d : Dialect} {e : Expr} {s : String} (h : Spells d IsColumn e s)
    {a : Aggregation} {r v : List Char} : s.toList ++ r ≠ (opening a).toList ++ v := by
  intro heq
  obtain ⟨v, hv⟩ := head_column h
  obtain ⟨x, w, hw, hx⟩ := head_opening a
  rw [hv, hw] at heq
  rw [← (List.cons.inj heq).1] at hx
  cases d <;> exact absurd hx (by decide)

/-- What may follow a value. -/
def valueMarks : List Char := [' ', ',', '\n']

lemma value_readable (d : Dialect) : Readable valueMarks (Spells d IsValue) id := by
  rintro _ _ s s' r u ⟨he | ⟨a, c, t⟩, hs⟩ ⟨hf | ⟨b, c', t'⟩, hs'⟩ hr hu h
  · exact column_readable d ⟨he, hs⟩ ⟨hf, hs'⟩ (hr.mono (by decide)) (hu.mono (by decide)) h
  · obtain ⟨w, _, htext⟩ := toList_aggregate hs'
    rw [htext, List.append_assoc] at h
    exact absurd h (not_aggregate ⟨he, hs⟩)
  · obtain ⟨w, _, htext⟩ := toList_aggregate hs
    rw [htext, List.append_assoc] at h
    exact absurd h.symm (not_aggregate ⟨hf, hs'⟩)
  · obtain ⟨w, hw, htext⟩ := toList_aggregate hs
    obtain ⟨w', hw', htext'⟩ := toList_aggregate hs'
    simp only [htext, htext', List.append_assoc] at h
    obtain ⟨rfl, hrest⟩ := opening_inj h
    obtain ⟨hcolumn, hrest⟩ := column_readable d hw hw' (by simp [columnMarks])
      (by simp [columnMarks]) hrest
    cases hcolumn
    exact ⟨rfl, (List.cons.inj hrest).2⟩

/-- The text of an item. -/
lemma toList_item {d : Dialect} {e : Expr} {s : String} (h : Spells d IsItem e s) :
    (e = .star none ∧ s.toList = ['*']) ∨ Spells d IsValue e s ∨
      ∃ f label w, e = .aliased f label ∧ Spells d IsValue f w ∧
        s.toList = w.toList ++ (" AS ".toList ++ (d.quote label).toList) := by
  rcases h with ⟨_ | he | ⟨he, label⟩, hs⟩
  · obtain rfl := Except.ok.inj hs
    exact .inl ⟨rfl, rfl⟩
  · exact .inr (.inl ⟨he, hs⟩)
  · obtain ⟨w, hw, rfl⟩ := render_aliased_ok hs
    exact .inr (.inr ⟨_, label, w, rfl, ⟨he, hw⟩, by simp⟩)

lemma not_star {d : Dialect} {e : Expr} {s : String} (h : Spells d IsValue e s)
    {r v : List Char} : s.toList ++ r ≠ '*' :: v := by
  intro heq
  obtain ⟨x, w, hw, hx⟩ := head_value h
  rw [hw] at heq
  rw [(List.cons.inj heq).1] at hx
  cases d <;> exact absurd hx (by decide)

/-- What may follow an item. -/
def itemMarks : List Char := [',', '\n']

/-- A value that a label follows is not an item by itself. -/
lemma not_labelled {d : Dialect} {e f : Expr} {s w : String} (he : Spells d IsValue e s)
    (hf : Spells d IsValue f w) {r v : List Char} (hr : Ends itemMarks r) :
    s.toList ++ r ≠ w.toList ++ (" AS ".toList ++ v) := by
  intro h
  have hru := (value_readable d he hf (hr.mono (by decide)) (by simp [valueMarks]) h).2
  exact hr.ne_cons (by decide) _ hru

lemma item_readable (d : Dialect) : Readable itemMarks (Spells d IsItem) id := by
  intro e f s s' r u he hf hr hu h
  rcases toList_item he with ⟨rfl, htext⟩ | he | ⟨g, label, w, rfl, hg, htext⟩ <;>
    rcases toList_item hf with ⟨rfl, htext'⟩ | hf | ⟨g', label', w', rfl, hg', htext'⟩
  · rw [htext, htext'] at h
    exact ⟨rfl, (List.cons.inj h).2⟩
  · rw [htext] at h
    exact absurd h.symm (not_star hf)
  · rw [htext, htext', List.append_assoc] at h
    exact absurd h.symm (not_star hg')
  · rw [htext'] at h
    exact absurd h (not_star he)
  · exact value_readable d he hf (hr.mono (by decide)) (hu.mono (by decide)) h
  · rw [htext', List.append_assoc, List.append_assoc] at h
    exact absurd h (not_labelled he hg' hr)
  · rw [htext, htext', List.append_assoc] at h
    exact absurd h (not_star hg)
  · rw [htext, List.append_assoc, List.append_assoc] at h
    exact absurd h.symm (not_labelled hf hg hu)
  · rw [htext, htext', List.append_assoc, List.append_assoc, List.append_assoc,
      List.append_assoc] at h
    obtain ⟨hvalue, h⟩ := value_readable d hg hg' (by simp [valueMarks]) (by simp [valueMarks]) h
    obtain ⟨hlabel, hru⟩ := name_readable d rfl rfl (hr.mono (by decide)) (hu.mono (by decide))
      (List.append_cancel_left h)
    exact ⟨congrArg₂ Expr.aliased hvalue hlabel, hru⟩

/-! ### Conditions -/

/-- What may follow a parameter. -/
def paramMarks : List Char := [',', ')']

lemma toList_param {d : Dialect} {e : Expr} {s : String} (h : Spells d IsParam e s) :
    ∃ n v, e = .param (paramName n) v ∧ s = ":" ++ paramName n := by
  obtain ⟨⟨n, v⟩, hs⟩ := h
  exact ⟨n, v, rfl, (Except.ok.inj hs).symm⟩

lemma head_param {d : Dialect} {e : Expr} {s : String} (h : Spells d IsParam e s) :
    ∃ v, s.toList = ':' :: v := by
  obtain ⟨n, _, _, rfl⟩ := toList_param h
  exact ⟨(paramName n).toList, by simp⟩

lemma param_readable (d : Dialect) : Readable paramMarks (Spells d IsParam) Expr.unbound := by
  intro e f s s' r u he hf hr hu h
  obtain ⟨n, v, rfl, hs⟩ := toList_param he
  obtain ⟨m, w, rfl, hs'⟩ := toList_param hf
  have hmarks : ∀ c ∈ paramMarks, ¬ c.isDigit := by
    intro c hc
    simp only [paramMarks, List.mem_cons, List.not_mem_nil, or_false] at hc
    rcases hc with rfl | rfl <;> decide
  obtain ⟨hname, hru⟩ := paramName_readable hmarks hs hs' hr hu h
  exact ⟨by rw [Expr.unbound, Expr.unbound, show n = m from hname], hru⟩

/-- The parameters of a membership test end at the parenthesis that closes it. -/
lemma params_inj {d : Dialect} {ps qs : List Expr} {vs ws : List String} {r u : List Char}
    (hp : List.Forall₂ (Spells d IsParam) ps vs) (hq : List.Forall₂ (Spells d IsParam) qs ws)
    (h : (", ".intercalate vs).toList ++ ')' :: r = (", ".intercalate ws).toList ++ ')' :: u) :
    ps.map Expr.unbound = qs.map Expr.unbound ∧ r = u := by
  cases hp with
  | nil =>
    cases hq with
    | nil => exact ⟨rfl, by simpa using h⟩
    | cons hw hq =>
      obtain ⟨v, hv⟩ := head_param hw
      rw [toList_intercalate_cons, hv] at h
      cases h
  | cons hv hp =>
    cases hq with
    | nil =>
      obtain ⟨w, hw⟩ := head_param hv
      rw [toList_intercalate_cons, hw] at h
      cases h
    | cons hw hq =>
      obtain ⟨hsame, h⟩ := (param_readable d).listed (by decide) [')'] (by decide)
        (by decide) ⟨List.cons_ne_nil _ _, _, .cons hv hp, rfl⟩
        ⟨List.cons_ne_nil _ _, _, .cons hw hq, rfl⟩ (by simp) (by simp) h
      exact ⟨hsame, (List.cons.inj h).2⟩

/-- A comparison as it is written between a column and a parameter. -/
def comparisonWord (op : String) : List Char := ' ' :: (op.toList ++ [' '])

/-- A membership test as it is written between a column and its parameters. -/
def membershipWord (negated : Bool) : List Char :=
  (if negated then " NOT IN (" else " IN (").toList

/-- What may stand after the column of a test. -/
def testWords : List (List Char) :=
  comparisons.map comparisonWord ++ [membershipWord false, membershipWord true]

lemma testWord_inj {w v r u : List Char} (hw : w ∈ testWords) (hv : v ∈ testWords)
    (h : w ++ r = v ++ u) : w = v ∧ r = u :=
  word_inj (by decide) hw hv h

lemma ends_testWord {w : List Char} (hw : w ∈ testWords) (v : List Char) :
    Ends columnMarks (w ++ v) := by
  have hspace : ∀ w ∈ testWords, w.head? = some ' ' := by decide
  obtain ⟨rest, rfl⟩ := List.head?_eq_some_iff.mp (hspace w hw)
  simp [columnMarks]

lemma comparisonWord_mem {op : String} (h : op ∈ comparisons) :
    comparisonWord op ∈ testWords :=
  List.mem_append_left _ (List.mem_map_of_mem h)

lemma membershipWord_mem (negated : Bool) : membershipWord negated ∈ testWords := by
  cases negated <;> decide

lemma comparisonWord_ne {op : String} (h : op ∈ comparisons) (negated : Bool) :
    comparisonWord op ≠ membershipWord negated := by
  have hall : ∀ op ∈ comparisons, ∀ negated, comparisonWord op ≠ membershipWord negated := by
    decide
  exact hall op h negated

/-- The text of a test: its column, a word, and what it is compared with. -/
lemma toList_test {d : Dialect} {e : Expr} {s : String} (h : Spells d IsTest e s) :
    (∃ c op p w v, e = .binary c op p ∧ op ∈ comparisons ∧ Spells d IsColumn c w ∧
      Spells d IsParam p v ∧
      s.toList = '(' :: (w.toList ++ (comparisonWord op ++ (v.toList ++ [')'])))) ∨
    ∃ c ps negated w vs, e = .inList c ps negated ∧ Spells d IsColumn c w ∧
      List.Forall₂ (Spells d IsParam) ps vs ∧
      s.toList = '(' :: (w.toList ++ (membershipWord negated ++
        ((", ".intercalate vs).toList ++ [')', ')']))) := by
  rcases h with ⟨⟨hc, hop, hp⟩ | ⟨negated, hc, hp⟩, hs⟩
  · obtain ⟨w, v, hw, hv, rfl⟩ := render_binary_ok hs
    exact .inl ⟨_, _, _, w, v, rfl, hop, ⟨hc, hw⟩, ⟨hp, hv⟩, by simp [comparisonWord]⟩
  · obtain ⟨w, vs, hw, hvs, rfl⟩ := render_inList_ok hs
    refine .inr ⟨_, _, negated, w, vs, rfl, ⟨hc, hw⟩, renderAll_ok hvs hp, ?_⟩
    cases negated <;> simp [Expr.inListText, membershipWord]

lemma test_inj {d : Dialect} {e f : Expr} {s s' : String} {r u : List Char}
    (he : Spells d IsTest e s) (hf : Spells d IsTest f s')
    (h : s.toList ++ r = s'.toList ++ u) : e.unbound = f.unbound ∧ r = u := by
  rcases toList_test he with ⟨c, op, p, w, v, rfl, hop, hw, hv, htext⟩ |
      ⟨c, ps, negated, w, vs, rfl, hw, hvs, htext⟩ <;>
    rcases toList_test hf with ⟨c', op', p', w', v', rfl, hop', hw', hv', htext'⟩ |
      ⟨c', ps', negated', w', vs', rfl, hw', hvs', htext'⟩ <;>
    simp only [htext, htext', List.cons_append, List.append_assoc, List.cons.injEq,
      true_and] at h
  · obtain ⟨hcolumn, h⟩ := column_readable d hw hw' (ends_testWord (comparisonWord_mem hop) _)
      (ends_testWord (comparisonWord_mem hop') _) h
    obtain ⟨hword, h⟩ := testWord_inj (comparisonWord_mem hop) (comparisonWord_mem hop') h
    obtain ⟨hparam, h⟩ := param_readable d hv hv' (by simp [paramMarks]) (by simp [paramMarks]) h
    have hop : op = op' := String.toList_inj.mp (by simpa [comparisonWord] using hword)
    refine ⟨?_, by simpa using h⟩
    rw [Expr.unbound, Expr.unbound, show c = c' from hcolumn, hop, hparam]
  · obtain ⟨_, h⟩ := column_readable d hw hw' (ends_testWord (comparisonWord_mem hop) _)
      (ends_testWord (membershipWord_mem negated') _) h
    have hword := (testWord_inj (comparisonWord_mem hop) (membershipWord_mem negated') h).1
    exact absurd hword (comparisonWord_ne hop negated')
  · obtain ⟨_, h⟩ := column_readable d hw hw' (ends_testWord (membershipWord_mem negated) _)
      (ends_testWord (comparisonWord_mem hop') _) h
    have hword := (testWord_inj (membershipWord_mem negated) (comparisonWord_mem hop') h).1
    exact absurd hword.symm (comparisonWord_ne hop' negated)
  · obtain ⟨hcolumn, h⟩ := column_readable d hw hw' (ends_testWord (membershipWord_mem negated) _)
      (ends_testWord (membershipWord_mem negated') _) h
    obtain ⟨hword, h⟩ := testWord_inj (membershipWord_mem negated) (membershipWord_mem negated') h
    obtain ⟨hparams, h⟩ := params_inj hvs hvs' h
    have hnegated : negated = negated' := by
      cases negated <;> cases negated' <;> first | rfl | exact absurd hword (by decide)
    refine ⟨?_, by simpa using h⟩
    rw [Expr.unbound, Expr.unbound, Expr.unboundAll_eq, Expr.unboundAll_eq,
      show c = c' from hcolumn, hnegated, hparams]

/-- The text of a test goes on with the quote mark of its column. -/
lemma head_test {d : Dialect} {e : Expr} {s : String} (h : Spells d IsTest e s) :
    ∃ v, s.toList = '(' :: d.quoteMark :: v := by
  rcases toList_test h with ⟨_, _, _, w, _, _, _, hw, _, hs⟩ | ⟨_, _, _, w, _, _, hw, _, hs⟩ <;>
    obtain ⟨v, hv⟩ := head_column hw <;>
    exact ⟨_, by rw [hs, hv, List.cons_append]⟩

lemma toList_both {d : Dialect} {e f : Expr} {s : String}
    (h : (Expr.binary e "AND" f).render d = .ok s) :
    ∃ l r, e.render d = .ok l ∧ f.render d = .ok r ∧
      s.toList = '(' :: (l.toList ++ (" AND ".toList ++ (r.toList ++ [')']))) := by
  obtain ⟨l, r, hl, hr, rfl⟩ := render_binary_ok h
  exact ⟨l, r, hl, hr, by simp⟩

/-- The text of a condition is in parentheses. -/
lemma head_condition {d : Dialect} {e : Expr} {s : String} (h : Spells d IsCondition e s) :
    ∃ v, s.toList = '(' :: v := by
  obtain ⟨ht | ⟨hl, hr⟩, hs⟩ := h
  · obtain ⟨v, hv⟩ := head_test ⟨ht, hs⟩
    exact ⟨_, hv⟩
  · obtain ⟨_, _, _, _, htext⟩ := toList_both hs
    exact ⟨_, htext⟩

/-- A test is not a conjunction, which goes on with another parenthesis. -/
lemma not_both {d : Dialect} {e left : Expr} {s l : String} (he : Spells d IsTest e s)
    (hl : Spells d IsCondition left l) {r v : List Char} :
    s.toList ++ r ≠ '(' :: (l.toList ++ v) := by
  intro h
  obtain ⟨w, hw⟩ := head_test he
  obtain ⟨x, hx⟩ := head_condition hl
  rw [hw, hx] at h
  have hmark : d.quoteMark = '(' := (List.cons.inj (List.cons.inj h).2).1
  cases d <;> exact absurd hmark (by decide)

/-- Induction on the tree of one condition; the other is of the same shape, or their texts
differ after the first parenthesis. -/
lemma condition_inj {d : Dialect} {e f : Expr} (he : IsCondition e) (hf : IsCondition f)
    {s s' : String} {r u : List Char} (hs : e.render d = .ok s) (hs' : f.render d = .ok s')
    (h : s.toList ++ r = s'.toList ++ u) : e.unbound = f.unbound ∧ r = u := by
  induction he generalizing f s s' r u with
  | test he =>
    cases hf with
    | test hf => exact test_inj ⟨he, hs⟩ ⟨hf, hs'⟩ h
    | both hl hr =>
      obtain ⟨l, _, hlt, _, htext⟩ := toList_both hs'
      rw [htext] at h
      simp only [List.cons_append, List.append_assoc] at h
      exact absurd h (not_both ⟨he, hs⟩ ⟨hl, hlt⟩)
  | both hl hr ihl ihr =>
    obtain ⟨l, t, hlt, hrt, htext⟩ := toList_both hs
    cases hf with
    | test hf =>
      rw [htext] at h
      simp only [List.cons_append, List.append_assoc] at h
      exact absurd h.symm (not_both ⟨hf, hs'⟩ ⟨hl, hlt⟩)
    | both hl' hr' =>
      obtain ⟨l', t', hlt', hrt', htext'⟩ := toList_both hs'
      simp only [htext, htext', List.cons_append, List.append_assoc, List.cons.injEq,
        true_and] at h
      obtain ⟨hleft, h⟩ := ihl hl' hlt hlt' h
      obtain ⟨hright, h⟩ := ihr hr' hrt hrt' (List.append_cancel_left h)
      refine ⟨?_, by simpa using h⟩
      rw [Expr.unbound, Expr.unbound, hleft, hright]

end MetricLayer.Plan
