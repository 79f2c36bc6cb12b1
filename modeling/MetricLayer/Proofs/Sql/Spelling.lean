import Mathlib.Data.List.Basic
import MetricLayer.Proofs.Fault
import MetricLayer.Sql.Select

/-!
# Texts of expressions

What it says of the parts of an expression that it has a text, and what is left of a statement
when the values it binds are forgotten.
-/
namespace MetricLayer.Sql
namespace Expr

mutual

/-- An expression without the values its parameters are bound to. -/
def unbound : Expr → Expr
  | param name _ => .param name .null
  | aliased e label => .aliased (unbound e) label
  | call function args distinct => .call function (unboundAll args) distinct
  | binary left op right => .binary (unbound left) op (unbound right)
  | inList e values negated => .inList (unbound e) (unboundAll values) negated
  | e => e

/-- Expressions without the values their parameters are bound to. -/
def unboundAll : List Expr → List Expr
  | [] => []
  | e :: es => unbound e :: unboundAll es

end

lemma unboundAll_eq (es : List Expr) : unboundAll es = es.map unbound := by
  induction es with
  | nil => rfl
  | cons e es ih => rw [unboundAll, ih, List.map_cons]

end Expr

/-- A statement without the values its condition compares with. -/
def Select.unbound (s : Select) : Select :=
  { s with condition := s.condition.map Expr.unbound }

/-! ### Texts of expressions -/

/-- The text of an expression of some kind. -/
def Spells (d : Dialect) (kind : Expr → Prop) (e : Expr) (s : String) : Prop :=
  kind e ∧ e.render d = .ok s

lemma renderAll_ok {d : Dialect} {es : List Expr} {ss : List String}
    (h : Expr.renderAll d es = .ok ss) {kind : Expr → Prop} (hkind : ∀ e ∈ es, kind e) :
    List.Forall₂ (Spells d kind) es ss := by
  induction es generalizing ss with
  | nil =>
    obtain rfl := Except.ok.inj h
    exact .nil
  | cons e es ih =>
    obtain ⟨s, hs, h⟩ := bind_eq_ok h
    obtain ⟨rest, hrest, h⟩ := bind_eq_ok h
    obtain rfl := Except.ok.inj h
    simp only [List.mem_cons, forall_eq_or_imp] at hkind
    exact .cons ⟨hkind.1, hs⟩ (ih hrest hkind.2)

/-- Expressions that have texts one by one have them together. -/
lemma exists_renderAll {d : Dialect} {es : List Expr} (h : ∀ e ∈ es, ∃ s, e.render d = .ok s) :
    ∃ ss, Expr.renderAll d es = .ok ss := by
  induction es with
  | nil => exact ⟨[], rfl⟩
  | cons e es ih =>
    simp only [List.mem_cons, forall_eq_or_imp] at h
    obtain ⟨⟨s, hs⟩, hrest⟩ := h
    obtain ⟨ss, hss⟩ := ih hrest
    refine ⟨s :: ss, ?_⟩
    rw [Expr.renderAll, hs, hss]
    rfl

lemma render_binary_ok {d : Dialect} {left right : Expr} {op s : String}
    (h : (Expr.binary left op right).render d = .ok s) :
    ∃ l r, left.render d = .ok l ∧ right.render d = .ok r ∧
      s = "(" ++ l ++ " " ++ op ++ " " ++ r ++ ")" := by
  rw [Expr.render] at h
  obtain ⟨l, hl, h⟩ := bind_eq_ok h
  obtain ⟨r, hr, h⟩ := bind_eq_ok h
  exact ⟨l, r, hl, hr, (Except.ok.inj h).symm⟩

lemma render_inList_ok {d : Dialect} {e : Expr} {values : List Expr} {negated : Bool} {s : String}
    (h : (Expr.inList e values negated).render d = .ok s) :
    ∃ l vs, e.render d = .ok l ∧ Expr.renderAll d values = .ok vs ∧
      s = Expr.inListText l vs negated := by
  rw [Expr.render] at h
  obtain ⟨vs, hvs, h⟩ := bind_eq_ok h
  obtain ⟨l, hl, h⟩ := bind_eq_ok h
  exact ⟨l, vs, hl, hvs, (Except.ok.inj h).symm⟩

lemma render_aliased_ok {d : Dialect} {e : Expr} {label s : String}
    (h : (Expr.aliased e label).render d = .ok s) :
    ∃ w, e.render d = .ok w ∧ s = w ++ " AS " ++ d.quote label := by
  rw [Expr.render] at h
  obtain ⟨w, hw, h⟩ := bind_eq_ok h
  exact ⟨w, hw, (Except.ok.inj h).symm⟩

/-! ### Values are not written -/

mutual

/-- The text of an expression does not depend on the values its parameters are bound to. -/
theorem render_unbound (d : Dialect) : ∀ e : Expr, e.unbound.render d = e.render d
  | .constant _ | .param _ _ | .star _ | .column _ _ | .raw _ | .source _ => by
    simp only [Expr.unbound, Expr.render]
  | .aliased e label => by
    simp only [Expr.unbound, Expr.render, render_unbound d e]
  | .call function args distinct => by
    simp only [Expr.unbound, Expr.render, renderAll_unbound d args, renderFirst_unbound d args]
  | .binary left op right => by
    simp only [Expr.unbound, Expr.render, render_unbound d left, render_unbound d right]
  | .inList e values negated => by
    simp only [Expr.unbound, Expr.render, render_unbound d e, renderAll_unbound d values]

theorem renderAll_unbound (d : Dialect) :
    ∀ es : List Expr, Expr.renderAll d (Expr.unboundAll es) = Expr.renderAll d es
  | [] => rfl
  | e :: es => by
    simp only [Expr.unboundAll, Expr.renderAll, render_unbound d e, renderAll_unbound d es]

theorem renderFirst_unbound (d : Dialect) :
    ∀ es : List Expr, Expr.renderFirst d (Expr.unboundAll es) = Expr.renderFirst d es
  | [] => rfl
  | e :: _ => by
    simp only [Expr.unboundAll, Expr.renderFirst, render_unbound d e]

end

/-- The text of a statement does not depend on the values it is bound to. -/
theorem Select.render_unbound (d : Dialect) (s : Select) : s.unbound.render d = s.render d := by
  have hcondition : conditionLines d s.unbound.condition = conditionLines d s.condition := by
    unfold unbound
    cases s.condition with
    | none => rfl
    | some e => simp only [Option.map_some, conditionLines, Sql.render_unbound]
  unfold render lines
  rw [hcondition]
  rfl

/-! ### Expressions without a text -/

/-- The faults of expressions that cannot be written: an aggregate that the dialect does not
have, and a table in the place of an expression. -/
inductive Unwritable (d : Dialect) : Fault → Prop
  | aggregate : Unwritable d (.failure (.unsupportedAggregate "MEDIAN" d.name))
  | source : Unwritable d (.badValue "Unknown AST node type: From")

mutual

theorem render_error {d : Dialect} :
    ∀ {e : Expr} {x : Fault}, e.render d = .error x → Unwritable d x
  | .constant _, _, h | .param _ _, _, h | .star none, _, h | .star (some _), _, h
  | .column _ none, _, h | .column _ (some _), _, h | .raw _, _, h => by
    rw [Expr.render] at h
    cases h
  | .source _, _, h => by
    rw [Expr.render] at h
    obtain rfl := Except.error.inj h
    exact .source
  | .aliased e label, _, h => by
    rw [Expr.render] at h
    exact render_error (map_eq_error h)
  | .call function args distinct, _, h => by
    rw [Expr.render] at h
    split at h
    · exact renderAll_error (map_eq_error h)
    · exact renderFirst_error (map_eq_error h)
    · exact renderFirst_error (map_eq_error h)
    · obtain rfl := Except.error.inj h
      exact .aggregate
  | .binary left op right, _, h => by
    rw [Expr.render] at h
    rcases bind_eq_error h with h | ⟨_, _, h⟩
    · exact render_error h
    · exact render_error (map_eq_error h)
  | .inList e values negated, _, h => by
    rw [Expr.render] at h
    rcases bind_eq_error h with h | ⟨_, _, h⟩
    · exact renderAll_error h
    · exact render_error (map_eq_error h)

theorem renderAll_error {d : Dialect} :
    ∀ {es : List Expr} {x : Fault}, Expr.renderAll d es = .error x → Unwritable d x
  | [], _, h => by
    rw [Expr.renderAll] at h
    cases h
  | e :: es, _, h => by
    rw [Expr.renderAll] at h
    rcases bind_eq_error h with h | ⟨_, _, h⟩
    · exact render_error h
    · exact renderAll_error (map_eq_error h)

theorem renderFirst_error {d : Dialect} :
    ∀ {es : List Expr} {x : Fault}, Expr.renderFirst d es = .error x → Unwritable d x
  | [], _, h => by
    rw [Expr.renderFirst] at h
    cases h
  | _ :: _, _, h => by
    rw [Expr.renderFirst] at h
    exact render_error h

end

lemma renderJoins_error {d : Dialect} {js : List Join} {x : Fault}
    (h : renderJoins d js = .error x) : Unwritable d x := by
  induction js with
  | nil => cases h
  | cons j js ih =>
    rw [renderJoins] at h
    rcases bind_eq_error h with h | ⟨_, _, h⟩
    · rw [Join.render] at h
      cases hon : j.on with
      | none =>
        rw [hon] at h
        cases h
      | some e =>
        rw [hon] at h
        exact render_error (map_eq_error h)
    · exact ih (map_eq_error h)

/-- A statement has no text only if one of its expressions has none. -/
theorem Select.render_error {d : Dialect} {s : Select} {x : Fault}
    (h : s.render d = .error x) : Unwritable d x := by
  have hlines := map_eq_error h
  rcases bind_eq_error hlines with h | ⟨_, _, h⟩
  · unfold columnsLine at h
    split at h
    · cases h
    · exact renderAll_error (map_eq_error h)
  rcases bind_eq_error h with h | ⟨_, _, h⟩
  · exact renderJoins_error h
  rcases bind_eq_error h with h | ⟨_, _, h⟩
  · unfold conditionLines at h
    cases hc : s.condition with
    | none =>
      rw [hc] at h
      cases h
    | some e =>
      rw [hc] at h
      exact MetricLayer.Sql.render_error (map_eq_error h)
  have hgroups := map_eq_error h
  unfold groupLines at hgroups
  split at hgroups
  · cases hgroups
  · exact renderAll_error (map_eq_error hgroups)

end MetricLayer.Sql
