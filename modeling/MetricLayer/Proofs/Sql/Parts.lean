import MetricLayer.Proofs.Sql.BindNames

/-!
# The parts of a statement's text

The text of a statement is made of quoted names, parameters and words that are written as they
are, and between them stand words without a colon at which the text can be cut. So the bind names
in the text are those in its parts, one part after the other.
-/
namespace MetricLayer.Sql

/-- A part of a text that is not fixed: an identifier, a parameter, or a word that is written as it
is. -/
inductive Part where
  | identifier (name : String)
  | param (name : String)
  | word (w : String)

namespace Part

/-- The bind names in a part. -/
def bindNames : Part → List String
  | identifier name => Sql.bindNames name
  | param name => Sql.bindNames (":" ++ name)
  | word w => Sql.bindNames w

def identifier? : Part → Option String
  | identifier name => some name
  | param _ | word _ => none

def param? : Part → Option String
  | param name => some name
  | identifier _ | word _ => none

end Part

namespace Expr

mutual

/-- The parts of the text of an expression. -/
def parts (d : Dialect) : Expr → List Part
  | constant v => [.word (constantText v)]
  | param name _ => [.param name]
  | star none => []
  | star (some t) => [.identifier t]
  | column name none => [.identifier name]
  | column name (some t) => [.identifier t, .identifier name]
  | aliased e label => parts d e ++ [.identifier label]
  | call function args _ =>
    match writing d function with
    | .plain => .word function :: partsOfAll d args
    | .renamed name => .word name :: partsOfFirst d args
    | .orderedMiddle => partsOfFirst d args
    | .unsupported => []
  | binary left op right => parts d left ++ .word op :: parts d right
  | inList e values _ => parts d e ++ partsOfAll d values
  | raw sql => [.word sql]
  | source _ => []

/-- The parts of several expressions. -/
def partsOfAll (d : Dialect) : List Expr → List Part
  | [] => []
  | e :: es => parts d e ++ partsOfAll d es

/-- The parts of the first expression. -/
def partsOfFirst (d : Dialect) : List Expr → List Part
  | [] => []
  | e :: _ => parts d e

end

lemma partsOfAll_eq (d : Dialect) (es : List Expr) : partsOfAll d es = es.flatMap (parts d) := by
  induction es with
  | nil => rfl
  | cons e es ih => rw [partsOfAll, ih, List.flatMap_cons]

end Expr

/-! ### Bind names part by part -/

mutual

/-- The bind names in the text of an expression are those in its parts. -/
theorem bindNames_render {d : Dialect} :
    ∀ {e : Expr} {s : String}, e.render d = .ok s → bindNames s = (e.parts d).flatMap Part.bindNames
  | .constant _, _, h | .param _ _, _, h | .raw _, _, h => by
    rw [Expr.render] at h
    obtain rfl := Except.ok.inj h
    exact (List.append_nil _).symm
  | .star none, _, h => by
    rw [Expr.render] at h
    obtain rfl := Except.ok.inj h
    exact bindNames_of_no_colon (by decide)
  | .star (some t), _, h => by
    rw [Expr.render] at h
    obtain rfl := Except.ok.inj h
    rw [bindNames_trail (by decide), bindNames_quote]
    exact (List.append_nil _).symm
  | .column name none, _, h => by
    rw [Expr.render] at h
    obtain rfl := Except.ok.inj h
    rw [bindNames_quote]
    exact (List.append_nil _).symm
  | .column name (some t), _, h => by
    rw [Expr.render] at h
    obtain rfl := Except.ok.inj h
    rw [bindNames_between (by decide), bindNames_quote, bindNames_quote]
    simp [Expr.parts, Part.bindNames]
  | .source _, _, h => by
    rw [Expr.render] at h
    cases h
  | .aliased e label, _, h => by
    rw [Expr.render] at h
    obtain ⟨w, hw, h⟩ := bind_eq_ok h
    obtain rfl := Except.ok.inj h
    rw [bindNames_between (by decide), bindNames_render hw, bindNames_quote]
    simp [Expr.parts, Part.bindNames]
  | .call function args distinct, _, h => by
    rw [Expr.render] at h
    rw [Expr.parts]
    cases hwriting : Expr.writing d function <;> simp only [hwriting] at h ⊢
    case plain =>
      obtain ⟨ss, hss, h⟩ := bind_eq_ok h
      obtain rfl := Except.ok.inj h
      have hopen : bindNames (function ++ (if distinct then "(DISTINCT " else "(") ++
          ", ".intercalate ss) = bindNames function ++ bindNames (", ".intercalate ss) := by
        cases distinct <;> exact bindNames_between (by decide) ..
      rw [Expr.callText, bindNames_trail (by decide), hopen, bindNames_intercalate (by decide),
        bindNames_renderAll hss]
      rfl
    case renamed name =>
      obtain ⟨s, hs, h⟩ := bind_eq_ok h
      obtain rfl := Except.ok.inj h
      rw [bindNames_trail (by decide), bindNames_between (by decide), bindNames_renderFirst hs]
      rfl
    case orderedMiddle =>
      obtain ⟨s, hs, h⟩ := bind_eq_ok h
      obtain rfl := Except.ok.inj h
      rw [bindNames_trail (by decide), bindNames_lead (by decide), bindNames_renderFirst hs]
    case unsupported => cases h
  | .binary left op right, _, h => by
    rw [Expr.render] at h
    obtain ⟨l, hl, h⟩ := bind_eq_ok h
    obtain ⟨r, hr, h⟩ := bind_eq_ok h
    obtain rfl := Except.ok.inj h
    rw [bindNames_trail (by decide), bindNames_between (by decide), bindNames_between (by decide),
      bindNames_lead (by decide), bindNames_render hl, bindNames_render hr]
    simp [Expr.parts, Part.bindNames]
  | .inList e values negated, _, h => by
    rw [Expr.render] at h
    obtain ⟨vs, hvs, h⟩ := bind_eq_ok h
    obtain ⟨w, hw, h⟩ := bind_eq_ok h
    obtain rfl := Except.ok.inj h
    have hopen : bindNames ("(" ++ w ++ (if negated then " NOT IN (" else " IN (") ++
        ", ".intercalate vs) = bindNames ("(" ++ w) ++ bindNames (", ".intercalate vs) := by
      cases negated <;> exact bindNames_between (by decide) ..
    rw [Expr.inListText, bindNames_trail (by decide), hopen, bindNames_lead (by decide),
      bindNames_intercalate (by decide), bindNames_render hw, bindNames_renderAll hvs]
    simp [Expr.parts]

theorem bindNames_renderAll {d : Dialect} :
    ∀ {es : List Expr} {ss : List String}, Expr.renderAll d es = .ok ss →
      ss.flatMap bindNames = (Expr.partsOfAll d es).flatMap Part.bindNames
  | [], _, h => by
    rw [Expr.renderAll] at h
    obtain rfl := Except.ok.inj h
    rfl
  | e :: es, _, h => by
    rw [Expr.renderAll] at h
    obtain ⟨s, hs, h⟩ := bind_eq_ok h
    obtain ⟨ss, hss, h⟩ := bind_eq_ok h
    obtain rfl := Except.ok.inj h
    rw [List.flatMap_cons, bindNames_render hs, bindNames_renderAll hss, Expr.partsOfAll,
      List.flatMap_append]

theorem bindNames_renderFirst {d : Dialect} :
    ∀ {es : List Expr} {s : String}, Expr.renderFirst d es = .ok s →
      bindNames s = (Expr.partsOfFirst d es).flatMap Part.bindNames
  | [], _, h => by
    rw [Expr.renderFirst] at h
    obtain rfl := Except.ok.inj h
    exact bindNames_of_no_colon (by decide)
  | _ :: _, _, h => by
    rw [Expr.renderFirst] at h
    exact bindNames_render h

end

/-- The bind names in a list of expressions are those in the expressions. -/
lemma bindNames_list {d : Dialect} {es : List Expr} {ss : List String}
    (h : Expr.renderAll d es = .ok ss) :
    bindNames (", ".intercalate ss) = (es.flatMap (Expr.parts d)).flatMap Part.bindNames := by
  rw [bindNames_intercalate (by decide), bindNames_renderAll h, Expr.partsOfAll_eq]

/-! ### Statements -/

/-- The parts of a table with its label. -/
def tableParts (table : String) : Option String → List Part
  | some l => if l.isEmpty then [.identifier table] else [.identifier table, .identifier l]
  | none => [.identifier table]

lemma bindNames_tableText (d : Dialect) (table : String) (label : Option String) :
    bindNames (tableText d table label) = (tableParts table label).flatMap Part.bindNames := by
  have halone : bindNames (d.quote table) = [Part.identifier table].flatMap Part.bindNames := by
    rw [bindNames_quote]
    exact (List.append_nil _).symm
  cases label with
  | none => exact halone
  | some l =>
    unfold tableText tableParts
    dsimp only
    split
    · exact halone
    · rw [bindNames_between (by decide), bindNames_quote, bindNames_quote]
      simp [Part.bindNames]

/-- The parts of a join. -/
def Join.parts (d : Dialect) (j : Join) : List Part :=
  tableParts j.table j.label ++ (j.on.map (Expr.parts d)).getD []

lemma bindNames_renderJoin {d : Dialect} {j : Join} {s : String} (h : j.render d = .ok s) :
    bindNames s = (j.parts d).flatMap Part.bindNames := by
  have hhead : bindNames (j.kind.name ++ " JOIN " ++ tableText d j.table j.label) =
      (tableParts j.table j.label).flatMap Part.bindNames := by
    have hkind : bindNames j.kind.name = [] := by
      refine bindNames_of_no_colon ?_
      cases j.kind <;> decide
    rw [bindNames_between (by decide), hkind, bindNames_tableText, List.nil_append]
  rw [Join.render] at h
  unfold Join.parts
  cases hon : j.on with
  | none =>
    rw [hon] at h
    obtain rfl := Except.ok.inj h
    simpa using hhead
  | some e =>
    rw [hon] at h
    obtain ⟨w, hw, h⟩ := bind_eq_ok h
    obtain rfl := Except.ok.inj h
    rw [bindNames_between (by decide), hhead, bindNames_render hw]
    simp

lemma bindNames_renderJoins {d : Dialect} {js : List Join} {ss : List String}
    (h : renderJoins d js = .ok ss) :
    ss.flatMap bindNames = (js.flatMap (Join.parts d)).flatMap Part.bindNames := by
  induction js generalizing ss with
  | nil =>
    obtain rfl := Except.ok.inj h
    rfl
  | cons j js ih =>
    obtain ⟨s, hs, h⟩ := bind_eq_ok h
    obtain ⟨rest, hrest, h⟩ := bind_eq_ok h
    obtain rfl := Except.ok.inj h
    rw [List.flatMap_cons, bindNames_renderJoin hs, ih hrest, List.flatMap_cons,
      List.flatMap_append]

namespace Select

/-- The parts of a statement, clause by clause. -/
def parts (d : Dialect) (s : Select) : List Part :=
  s.columns.flatMap (Expr.parts d) ++
    ((s.source.map fun t => tableParts t.table t.label).getD [] ++
      (s.joins.flatMap (Join.parts d) ++
        ((s.condition.map (Expr.parts d)).getD [] ++
          (s.groups.flatMap (Expr.parts d) ++
            (s.limit.map fun n => Part.word (toString n)).toList))))

/-- The identifiers in the text of a statement. -/
def identifiers (d : Dialect) (s : Select) : List String :=
  (s.parts d).filterMap Part.identifier?

/-- The parameters in the text of a statement. -/
def paramNames (d : Dialect) (s : Select) : List String :=
  (s.parts d).filterMap Part.param?

lemma bindNames_columnsLine {d : Dialect} {columns : List Expr} {line : String}
    (h : columnsLine d columns = .ok line) :
    bindNames line = (columns.flatMap (Expr.parts d)).flatMap Part.bindNames := by
  cases columns with
  | nil =>
    obtain rfl := Except.ok.inj h
    exact bindNames_of_no_colon (by decide)
  | cons e es =>
    obtain ⟨ss, hss, h⟩ := bind_eq_ok h
    obtain rfl := Except.ok.inj h
    rw [bindNames_lead (by decide), bindNames_list hss]

lemma bindNames_conditionLines {d : Dialect} {condition : Option Expr} {ls : List String}
    (h : conditionLines d condition = .ok ls) :
    ls.flatMap bindNames = ((condition.map (Expr.parts d)).getD []).flatMap Part.bindNames := by
  cases condition with
  | none =>
    obtain rfl := Except.ok.inj h
    rfl
  | some e =>
    obtain ⟨s, hs, h⟩ := bind_eq_ok h
    obtain rfl := Except.ok.inj h
    rw [List.flatMap_singleton, bindNames_lead (by decide), bindNames_render hs]
    rfl

lemma bindNames_groupLines {d : Dialect} {groups : List Expr} {ls : List String}
    (h : groupLines d groups = .ok ls) :
    ls.flatMap bindNames = (groups.flatMap (Expr.parts d)).flatMap Part.bindNames := by
  cases groups with
  | nil =>
    obtain rfl := Except.ok.inj h
    rfl
  | cons e es =>
    obtain ⟨ss, hss, h⟩ := bind_eq_ok h
    obtain rfl := Except.ok.inj h
    rw [List.flatMap_singleton, bindNames_lead (by decide), bindNames_list hss]

/-- The bind names in the text of a statement are those in its parts. -/
theorem bindNames_render {d : Dialect} {s : Select} {text : String} (h : s.render d = .ok text) :
    bindNames text = (s.parts d).flatMap Part.bindNames := by
  obtain ⟨ls, hlines, h⟩ := bind_eq_ok h
  obtain rfl := Except.ok.inj h
  obtain ⟨line, hline, h⟩ := bind_eq_ok hlines
  obtain ⟨js, hjs, h⟩ := bind_eq_ok h
  obtain ⟨cs, hcs, h⟩ := bind_eq_ok h
  obtain ⟨gs, hgs, h⟩ := bind_eq_ok h
  obtain rfl := Except.ok.inj h
  have hsource : (s.source.map (Source.render d)).toList.flatMap bindNames =
      ((s.source.map fun t => tableParts t.table t.label).getD []).flatMap Part.bindNames := by
    cases s.source with
    | none => rfl
    | some t =>
      have htext := bindNames_lead (w := "FROM ") (by decide) (tableText d t.table t.label)
      simpa [Source.render, bindNames_tableText] using htext
  have hlimit : (limitLines s.limit).flatMap bindNames =
      (s.limit.map fun n => Part.word (toString n)).toList.flatMap Part.bindNames := by
    cases s.limit with
    | none => rfl
    | some n =>
      have htext := bindNames_lead (w := "LIMIT ") (by decide) (toString n)
      simpa [limitLines, Part.bindNames] using htext
  rw [bindNames_intercalate (by decide)]
  simp only [parts, List.flatMap_cons, List.flatMap_append, List.append_assoc,
    bindNames_columnsLine hline, hsource, bindNames_renderJoins hjs, bindNames_conditionLines hcs,
    bindNames_groupLines hgs, hlimit]

end Select
end MetricLayer.Sql
