import MetricLayer.Proofs.Plan.ReadableParts

/-!
# The text of a planned statement determines it

Each clause begins with words of its own after a line end, and its parts are readable. So no
two planned statements have the same text, whatever their tables, columns and labels are
called, unless only the values differ that they bind.
-/
namespace MetricLayer.Plan
open Sql

/-! ### Clauses -/

/-- The text of a join after its kind. -/
def JoinText (d : Dialect) (j : Join) (s : String) : Prop :=
  IsJoin j ∧ j.render d = .ok ("INNER JOIN " ++ s)

lemma render_join_ok {d : Dialect} {j : Join} {s : String} (hj : IsJoin j)
    (h : j.render d = .ok s) : ∃ w, s = "INNER JOIN " ++ w ∧ JoinText d j w := by
  cases hj with
  | intro table hl hr =>
    obtain ⟨w, hw, hs⟩ := bind_eq_ok h
    obtain rfl := Except.ok.inj hs
    refine ⟨d.quote table ++ " ON " ++ w, ?_, ⟨table, hl, hr⟩, ?_⟩
    · simp [tableText, JoinKind.name, String.append_assoc]
    · rw [h]
      simp [tableText, JoinKind.name, String.append_assoc]

lemma toList_join {d : Dialect} {j : Join} {s : String} (h : JoinText d j s) :
    ∃ table left right l r, j = ⟨.inner, table, none, some (equality left right)⟩ ∧
      Spells d IsColumn left l ∧ Spells d IsColumn right r ∧
      s.toList = (d.quote table).toList ++ (" ON (".toList ++
        (l.toList ++ (" = ".toList ++ (r.toList ++ [')'])))) := by
  obtain ⟨⟨table, hl, hr⟩, hs⟩ := h
  obtain ⟨w, hw, hs⟩ := bind_eq_ok hs
  obtain ⟨l, r, hlt, hrt, rfl⟩ := render_binary_ok hw
  refine ⟨table, _, _, l, r, rfl, ⟨hl, hlt⟩, ⟨hr, hrt⟩, ?_⟩
  have htext := congrArg String.toList (Except.ok.inj hs)
  simp only [tableText, JoinKind.name, String.toList_append, List.append_assoc] at htext
  simpa using htext.symm

lemma join_readable (d : Dialect) : Readable ['\n'] (JoinText d) id := by
  intro i j s s' r u hs hs' _ _ h
  obtain ⟨table, left, right, l, w, rfl, hl, hw, htext⟩ := toList_join hs
  obtain ⟨table', left', right', l', w', rfl, hl', hw', htext'⟩ := toList_join hs'
  simp only [htext, htext', List.append_assoc] at h
  obtain ⟨htable, h⟩ := name_readable d rfl rfl (by simp [columnMarks]) (by simp [columnMarks]) h
  obtain ⟨hleft, h⟩ := column_readable d hl hl' (by simp [columnMarks]) (by simp [columnMarks])
    (List.append_cancel_left h)
  obtain ⟨hright, h⟩ := column_readable d hw hw' (by simp [columnMarks]) (by simp [columnMarks])
    (List.append_cancel_left h)
  refine ⟨?_, List.append_cancel_left h⟩
  rw [show table = table' from htable, show left = left' from hleft,
    show right = right' from hright]

lemma renderJoins_ok {d : Dialect} {js : List Join} {ss : List String}
    (h : renderJoins d js = .ok ss) (hjs : ∀ j ∈ js, IsJoin j) :
    ∃ ws : List String, ss = ws.map ("INNER JOIN " ++ ·) ∧ List.Forall₂ (JoinText d) js ws := by
  induction js generalizing ss with
  | nil =>
    obtain rfl := Except.ok.inj h
    exact ⟨[], rfl, .nil⟩
  | cons j js ih =>
    obtain ⟨s, hs, h⟩ := bind_eq_ok h
    obtain ⟨rest, hrest, h⟩ := bind_eq_ok h
    obtain rfl := Except.ok.inj h
    simp only [List.mem_cons, forall_eq_or_imp] at hjs
    obtain ⟨w, rfl, hw⟩ := render_join_ok hjs.1 hs
    obtain ⟨ws, rfl, hws⟩ := ih hrest hjs.2
    exact ⟨w :: ws, rfl, .cons hw hws⟩

/-- The text of a `WHERE` clause with the line end before it. -/
inductive ConditionText (d : Dialect) : Option Expr → List Char → Prop
  | none : ConditionText d none []
  | some {e : Expr} {s : String} (h : Spells d IsCondition e s) :
    ConditionText d (some e) ("\nWHERE ".toList ++ s.toList)

/-- The text of a `GROUP BY` clause with the line end before it. -/
inductive GroupText (d : Dialect) : List Expr → List Char → Prop
  | none : GroupText d [] []
  | some {es : List Expr} {s : String} (h : Listed (Spells d IsColumn) es s) :
    GroupText d es ("\nGROUP BY ".toList ++ s.toList)

/-- Lines, each after a line end. -/
def lineTexts (ls : List String) : List Char :=
  ls.flatMap fun l => "\n".toList ++ l.toList

lemma conditionLines_ok {d : Dialect} {condition : Option Expr} {ls : List String}
    (h : Select.conditionLines d condition = .ok ls)
    (hc : ∀ e, condition = some e → IsCondition e) :
    ConditionText d condition (lineTexts ls) := by
  cases condition with
  | none =>
    obtain rfl := Except.ok.inj h
    exact .none
  | some e =>
    obtain ⟨s, hs, h⟩ := bind_eq_ok h
    obtain rfl := Except.ok.inj h
    have htext : lineTexts ["WHERE " ++ s] = "\nWHERE ".toList ++ s.toList := by
      simp [lineTexts]
    rw [htext]
    exact .some ⟨hc e rfl, hs⟩

lemma groupLines_ok {d : Dialect} {groups : List Expr} {ls : List String}
    (h : Select.groupLines d groups = .ok ls) (hg : ∀ e ∈ groups, IsColumn e) :
    GroupText d groups (lineTexts ls) := by
  cases groups with
  | nil =>
    obtain rfl := Except.ok.inj h
    exact .none
  | cons e es =>
    obtain ⟨ss, hss, h⟩ := bind_eq_ok h
    obtain rfl := Except.ok.inj h
    have htext : lineTexts ["GROUP BY " ++ ", ".intercalate ss] =
        "\nGROUP BY ".toList ++ (", ".intercalate ss).toList := by
      simp [lineTexts]
    rw [htext]
    exact .some ⟨List.cons_ne_nil _ _, ss, renderAll_ok hss hg, rfl⟩

lemma columnsLine_ok {d : Dialect} {columns : List Expr} {line : String}
    (h : Select.columnsLine d columns = .ok line)
    (hc : columns ≠ [] ∧ ∀ e ∈ columns, IsItem e) :
    ∃ s, Listed (Spells d IsItem) columns s ∧ line = "SELECT " ++ s := by
  cases columns with
  | nil => exact absurd rfl hc.1
  | cons e es =>
    obtain ⟨ss, hss, h⟩ := bind_eq_ok h
    obtain rfl := Except.ok.inj h
    exact ⟨_, ⟨hc.1, ss, renderAll_ok hss hc.2, rfl⟩, rfl⟩

/-! ### Statements -/

/-- The text of a planned statement, clause by clause. -/
lemma toList_statement {d : Dialect} {s : Select} {text : String} (hs : Planned s)
    (h : s.render d = .ok text) :
    ∃ table columns joins c g, s.source = some ⟨table, none⟩ ∧
      Listed (Spells d IsItem) s.columns columns ∧
      List.Forall₂ (JoinText d) s.joins joins ∧ ConditionText d s.condition c ∧
      GroupText d s.groups g ∧
      text.toList = "SELECT ".toList ++ (columns.toList ++ ("\nFROM ".toList ++
        ((d.quote table).toList ++
          ((joins.flatMap fun j => "\nINNER JOIN ".toList ++ j.toList) ++ (c ++ g))))) := by
  obtain ⟨table, hsource⟩ := hs.source
  obtain ⟨ls, hlines, h⟩ := bind_eq_ok h
  obtain rfl := Except.ok.inj h
  obtain ⟨line, hline, h⟩ := bind_eq_ok hlines
  obtain ⟨js, hjs, h⟩ := bind_eq_ok h
  obtain ⟨cs, hcs, h⟩ := bind_eq_ok h
  obtain ⟨gs, hgs, h⟩ := bind_eq_ok h
  obtain rfl := Except.ok.inj h
  obtain ⟨columns, hcolumns, rfl⟩ := columnsLine_ok hline hs.columns
  obtain ⟨joins, rfl, hjoins⟩ := renderJoins_ok hjs hs.joins
  refine ⟨table, columns, joins, _, _, hsource, hcolumns, hjoins,
    conditionLines_ok hcs hs.condition, groupLines_ok hgs hs.groups, ?_⟩
  rw [hsource, hs.limit, toList_intercalate_cons]
  simp [lineTexts, Source.render, tableText, Select.limitLines, List.flatMap_map]

lemma ends_clauses {d : Dialect} {condition : Option Expr} {groups : List Expr}
    {c g : List Char} (hc : ConditionText d condition c) (hg : GroupText d groups g) :
    Ends ['\n'] (c ++ g) ∧ ¬ "\nINNER JOIN ".toList <+: c ++ g := by
  cases hc <;> cases hg <;> simp

lemma groups_inj {d : Dialect} {gs gs' : List Expr} {g g' : List Char}
    (hg : GroupText d gs g) (hg' : GroupText d gs' g') (h : g = g') : gs = gs' := by
  cases hg with
  | none =>
    cases hg' with
    | none => rfl
    | some _ => cases h
  | some hlist =>
    cases hg' with
    | none => cases h
    | some hlist' =>
      have hread := (column_readable d).listed (by decide) [] (by simp) (by simp)
        hlist hlist' (ends_nil _) (ends_nil _) (by simpa using h)
      simpa using hread.1

/-- The clauses after the joins. A `WHERE` clause is not taken for a `GROUP BY` clause. -/
lemma clauses_inj {d : Dialect} {condition condition' : Option Expr} {gs gs' : List Expr}
    {c c' g g' : List Char} (hc : ConditionText d condition c)
    (hc' : ConditionText d condition' c') (hg : GroupText d gs g) (hg' : GroupText d gs' g')
    (h : c ++ g = c' ++ g') :
    condition.map Expr.unbound = condition'.map Expr.unbound ∧ gs = gs' := by
  cases hc with
  | none =>
    cases hc' with
    | none => exact ⟨rfl, groups_inj hg hg' h⟩
    | some _ => cases hg <;> simp at h
  | some hs =>
    cases hc' with
    | none => cases hg' <;> simp at h
    | some hs' =>
      simp only [List.append_assoc, List.append_cancel_left_eq] at h
      obtain ⟨hcondition, h⟩ := condition_inj hs.1 hs'.1 hs.2 hs'.2 h
      exact ⟨congrArg some hcondition, groups_inj hg hg' h⟩

/-- Planned statements of the same text are the same up to the values they bind. -/
lemma statement_inj {d : Dialect} {s s' : Select} (hs : Planned s) (hs' : Planned s')
    {text : String} (h : s.render d = .ok text) (h' : s'.render d = .ok text) :
    s.unbound = s'.unbound := by
  obtain ⟨table, columns, joins, c, g, hsource, hcolumns, hjoins, hc, hg, htext⟩ :=
    toList_statement hs h
  obtain ⟨table', columns', joins', c', g', hsource', hcolumns', hjoins', hc', hg', htext'⟩ :=
    toList_statement hs' h'
  obtain ⟨hend, hnot⟩ := ends_clauses hc hg
  obtain ⟨hend', hnot'⟩ := ends_clauses hc' hg'
  have hline : ∀ v, Ends ['\n'] ("\nINNER JOIN ".toList ++ v) := by
    intro v
    simp
  rw [htext] at htext'
  obtain ⟨hselect, heq⟩ := (item_readable d).listed (by decide) ['\n'] (by decide)
    (by decide) hcolumns hcolumns' (by simp) (by simp) (List.append_cancel_left htext')
  obtain ⟨htable, heq⟩ := name_readable d rfl rfl
    ((ends_pieces hline _ hend).mono (by decide)) ((ends_pieces hline _ hend').mono (by decide))
    (List.append_cancel_left heq)
  obtain ⟨hjoin, heq⟩ := (join_readable d).pieces hline hjoins hjoins' hend hend' hnot hnot' heq
  obtain ⟨hcondition, hgroups⟩ := clauses_inj hc hc' hg hg' heq
  simp only [List.map_id, id_eq] at hselect hjoin htable
  simp only [Select.unbound, hsource, hsource', hselect, hjoin, htable, hcondition, hgroups,
    hs.limit, hs'.limit]

/-- A statement of a planned aggregation that selects something, or of a planned report. -/
def Emitted (s : Select) : Prop :=
  (∃ fs join selected filters aggregation p,
      facts fs join selected filters aggregation = .ok p ∧ s = p.statement ∧ s.columns ≠ []) ∨
    ∃ r runtime p, report r runtime = .ok p ∧ s = p.statement

/-- The planners write within a grammar, and in it a text determines the statement: whatever
tables, columns and labels are called, two statements of the same text differ at most in the
values they bind. -/
theorem emitted_unambiguous :
    (∀ s, Emitted s → Planned s) ∧
      ∀ (d : Dialect) (s s' : Select) (text : String), Planned s → Planned s' →
        s.render d = .ok text → s'.render d = .ok text → s.unbound = s'.unbound := by
  refine ⟨?_, ?_⟩
  · rintro s (⟨fs, join, selected, filters, aggregation, p, h, rfl, hcolumns⟩ |
      ⟨r, runtime, p, h, rfl⟩)
    · exact facts_planned h hcolumns
    · exact report_planned h
  · intro d s s' text hs hs' h h'
    exact statement_inj hs hs' h h'

/-- A fact whose name, table and column are full of marks. -/
def awkwardFact : Fact := ⟨1, 1, "Net \"Revenue\"", "or\"ders\n", "FROM, (", .sum⟩

/-- The joins of such a fact and a dimension on its table. -/
def awkwardJoin : JoinPlan :=
  ⟨"or\"ders\n", [], [],
    [⟨⟨1, 1, "Region", "or\"ders\n", "re.gion"⟩, "or\"ders\n", "re.gion", [1]⟩], [], []⟩

/-- Two statements of the same text bind different values. -/
theorem emitted_unambiguous_awkward :
    ∃ p q text,
      facts [awkwardFact] awkwardJoin [1] [⟨1, .str "EU"⟩] none = .ok p ∧
      facts [awkwardFact] awkwardJoin [1] [⟨1, .str "US"⟩] none = .ok q ∧
      p.statement.render .postgres = .ok text ∧ q.statement.render .postgres = .ok text ∧
      p.statement.unbound = q.statement.unbound := by
  refine ⟨_, _, _, rfl, rfl, rfl, rfl, ?_⟩
  refine emitted_unambiguous.2 .postgres _ _ _ (emitted_unambiguous.1 _ (.inl ?_))
    (emitted_unambiguous.1 _ (.inl ?_)) rfl rfl
  · exact ⟨[awkwardFact], awkwardJoin, [1], [⟨1, .str "EU"⟩], none, _, rfl, rfl,
      List.cons_ne_nil _ _⟩
  · exact ⟨[awkwardFact], awkwardJoin, [1], [⟨1, .str "US"⟩], none, _, rfl, rfl,
      List.cons_ne_nil _ _⟩

end MetricLayer.Plan
