import MetricLayer.Model.Aggregation
import MetricLayer.Proofs.Sql.Spelling

/-!
# Aggregates in dialects

Dialects differ in the aggregates that they can write. An expression that has a text in one
dialect fails to have one in another only for want of such an aggregate.
-/
namespace MetricLayer.Sql

/-- How a dialect writes an aggregate. -/
lemma writing_aggregate (d : Dialect) (a : Aggregation) :
    Expr.writing d a.name =
      match a with
      | .median => if d.capabilities.median then .orderedMiddle else .unsupported
      | .stddev => .renamed "STDDEV_POP"
      | .variance => .renamed "VAR_POP"
      | _ => .plain := by
  cases a <;> cases d <;> decide

/-- The fault of a median that a dialect cannot write. -/
def noMedian (d : Dialect) : Fault := .failure (.unsupportedAggregate "MEDIAN" d.name)

/-- The aggregate of a column has no text in MySQL exactly if it is a median. -/
lemma render_aggregate_mysql (a : Aggregation) (column table : String) :
    (a = .median ∧ (Expr.call a.name [.column column (some table)] false).render .mysql =
        .error (noMedian .mysql)) ∨
      a ≠ .median ∧
        ∃ s, (Expr.call a.name [.column column (some table)] false).render .mysql = .ok s := by
  rw [Expr.render, writing_aggregate]
  cases a with
  | median => exact .inl ⟨rfl, rfl⟩
  | _ => exact .inr ⟨by simp, _, rfl⟩

/-- The aggregate of a column has a text, unless it is a median that the dialect cannot write. -/
lemma render_aggregate_error {d : Dialect} {a : Aggregation} {column table : String} {x : Fault}
    (h : (Expr.call a.name [.column column (some table)] false).render d = .error x) :
    x = noMedian d := by
  rw [Expr.render, writing_aggregate] at h
  cases a with
  | median =>
    cases d with
    | postgres => cases h
    | mysql => exact (Except.error.inj h).symm
  | _ => cases h

/-! ### One expression in two dialects -/

/-- Two dialects write a function alike, unless it is the median. -/
lemma writing_cases (d d' : Dialect) (function : String) :
    Expr.writing d function = Expr.writing d' function ∨
      (Expr.writing d function = .unsupported ∨ Expr.writing d' function = .unsupported) := by
  unfold Expr.writing
  dsimp only
  split
  · split
    · split
      · exact .inl rfl
      · exact .inr (.inr rfl)
    · exact .inr (.inl rfl)
  · exact .inl rfl

mutual

/-- What has a text in one dialect fails to have one in another only for a median. -/
theorem render_error_of_ok {d d' : Dialect} :
    ∀ {e : Expr} {s : String} {x : Fault}, e.render d' = .ok s → e.render d = .error x →
      x = noMedian d
  | .constant _, _, _, _, h | .param _ _, _, _, _, h | .star none, _, _, _, h
  | .star (some _), _, _, _, h | .column _ none, _, _, _, h | .column _ (some _), _, _, _, h
  | .raw _, _, _, _, h => by
    rw [Expr.render] at h
    cases h
  | .source _, _, _, hok, _ => by
    rw [Expr.render] at hok
    cases hok
  | .aliased e label, _, _, hok, h => by
    rw [Expr.render] at hok h
    obtain ⟨_, hok, _⟩ := bind_eq_ok hok
    exact render_error_of_ok hok (map_eq_error h)
  | .call function args distinct, _, _, hok, h => by
    rw [Expr.render] at hok h
    rcases writing_cases d d' function with hsame | hnone | hnone
    · rw [← hsame] at hok
      split at h
      · rename_i hplain
        rw [hplain] at hok
        obtain ⟨_, hok, _⟩ := bind_eq_ok hok
        exact renderAll_error_of_ok hok (map_eq_error h)
      · rename_i hrenamed
        rw [hrenamed] at hok
        obtain ⟨_, hok, _⟩ := bind_eq_ok hok
        exact renderFirst_error_of_ok hok (map_eq_error h)
      · rename_i hordered
        rw [hordered] at hok
        obtain ⟨_, hok, _⟩ := bind_eq_ok hok
        exact renderFirst_error_of_ok hok (map_eq_error h)
      · exact (Except.error.inj h).symm
    · rw [hnone] at h
      exact (Except.error.inj h).symm
    · rw [hnone] at hok
      cases hok
  | .binary left op right, _, _, hok, h => by
    rw [Expr.render] at hok h
    obtain ⟨_, hl, hok⟩ := bind_eq_ok hok
    obtain ⟨_, hr, _⟩ := bind_eq_ok hok
    rcases bind_eq_error h with h | ⟨_, _, h⟩
    · exact render_error_of_ok hl h
    · exact render_error_of_ok hr (map_eq_error h)
  | .inList e values negated, _, _, hok, h => by
    rw [Expr.render] at hok h
    obtain ⟨_, hvalues, hok⟩ := bind_eq_ok hok
    obtain ⟨_, he, _⟩ := bind_eq_ok hok
    rcases bind_eq_error h with h | ⟨_, _, h⟩
    · exact renderAll_error_of_ok hvalues h
    · exact render_error_of_ok he (map_eq_error h)

theorem renderAll_error_of_ok {d d' : Dialect} :
    ∀ {es : List Expr} {ss : List String} {x : Fault}, Expr.renderAll d' es = .ok ss →
      Expr.renderAll d es = .error x → x = noMedian d
  | [], _, _, _, h => by
    rw [Expr.renderAll] at h
    cases h
  | e :: es, _, _, hok, h => by
    rw [Expr.renderAll] at hok h
    obtain ⟨_, he, hok⟩ := bind_eq_ok hok
    obtain ⟨_, hes, _⟩ := bind_eq_ok hok
    rcases bind_eq_error h with h | ⟨_, _, h⟩
    · exact render_error_of_ok he h
    · exact renderAll_error_of_ok hes (map_eq_error h)

theorem renderFirst_error_of_ok {d d' : Dialect} :
    ∀ {es : List Expr} {s : String} {x : Fault}, Expr.renderFirst d' es = .ok s →
      Expr.renderFirst d es = .error x → x = noMedian d
  | [], _, _, _, h => by
    rw [Expr.renderFirst] at h
    cases h
  | _ :: _, _, _, hok, h => by
    rw [Expr.renderFirst] at hok h
    exact render_error_of_ok hok h

end

lemma renderJoins_error_of_ok {d d' : Dialect} {js : List Join} {ss : List String} {x : Fault}
    (hok : renderJoins d' js = .ok ss) (h : renderJoins d js = .error x) : x = noMedian d := by
  induction js generalizing ss with
  | nil => cases h
  | cons j js ih =>
    rw [renderJoins] at hok h
    obtain ⟨_, hj, hok⟩ := bind_eq_ok hok
    obtain ⟨_, hjs, _⟩ := bind_eq_ok hok
    rcases bind_eq_error h with h | ⟨_, _, h⟩
    · rw [Join.render] at hj h
      cases hon : j.on with
      | none =>
        rw [hon] at h
        cases h
      | some e =>
        rw [hon] at hj h
        obtain ⟨_, he, _⟩ := bind_eq_ok hj
        exact render_error_of_ok he (map_eq_error h)
    · exact ih hjs (map_eq_error h)

namespace Select

/-- A statement that has a text in one dialect fails to have one in another only for a median. -/
theorem render_error_of_ok {d d' : Dialect} {s : Select} {text : String} {x : Fault}
    (hok : s.render d' = .ok text) (h : s.render d = .error x) : x = noMedian d := by
  obtain ⟨_, hok, _⟩ := bind_eq_ok hok
  obtain ⟨_, hcolumns, hok⟩ := bind_eq_ok hok
  obtain ⟨_, hjoins, hok⟩ := bind_eq_ok hok
  obtain ⟨_, hcondition, hok⟩ := bind_eq_ok hok
  obtain ⟨_, hgroups, _⟩ := bind_eq_ok hok
  rcases bind_eq_error (map_eq_error h) with h | ⟨_, _, h⟩
  · unfold columnsLine at hcolumns h
    split at h
    · cases h
    · rename_i hnone
      rw [if_neg hnone] at hcolumns
      obtain ⟨_, hcolumns, _⟩ := bind_eq_ok hcolumns
      exact renderAll_error_of_ok hcolumns (map_eq_error h)
  rcases bind_eq_error h with h | ⟨_, _, h⟩
  · exact renderJoins_error_of_ok hjoins h
  rcases bind_eq_error h with h | ⟨_, _, h⟩
  · unfold conditionLines at hcondition h
    cases hc : s.condition with
    | none =>
      rw [hc] at h
      cases h
    | some e =>
      rw [hc] at hcondition h
      obtain ⟨_, he, _⟩ := bind_eq_ok hcondition
      exact Sql.render_error_of_ok he (map_eq_error h)
  have hlast := map_eq_error h
  unfold groupLines at hgroups hlast
  split at hlast
  · cases hlast
  · rename_i hnone
    rw [if_neg hnone] at hgroups
    obtain ⟨_, hgroups, _⟩ := bind_eq_ok hgroups
    exact renderAll_error_of_ok hgroups (map_eq_error hlast)

/-- Every column of a statement that has a text has one. -/
lemma renders_columns {d : Dialect} {s : Select} {text : String} (h : s.render d = .ok text)
    {e : Expr} (he : e ∈ s.columns) : ∃ w, e.render d = .ok w := by
  obtain ⟨_, h, _⟩ := bind_eq_ok h
  obtain ⟨_, hcolumns, _⟩ := bind_eq_ok h
  unfold columnsLine at hcolumns
  rw [if_neg (by simpa using List.ne_nil_of_mem he)] at hcolumns
  obtain ⟨ss, hss, _⟩ := bind_eq_ok hcolumns
  have hall : List.Forall₂ (Spells d fun _ => True) s.columns ss :=
    renderAll_ok hss fun _ _ => trivial
  obtain ⟨i, hi, rfl⟩ := List.getElem_of_mem he
  exact ⟨_, (hall.get hi (hall.length_eq ▸ hi)).2⟩

end Select
end MetricLayer.Sql
