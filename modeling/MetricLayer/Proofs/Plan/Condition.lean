import Mathlib.Data.List.Basic
import MetricLayer.Plan.Aggregate
import MetricLayer.Plan.Report
import MetricLayer.Proofs.Sql.Scope

/-!
# The conditions of a query

A constraint is a test of an expression. Both planners add constraints one after another: each
becomes one condition, the conditions are combined with AND from the left, and the values they
compare with are bound to parameters numbered from the first value on.
-/
namespace MetricLayer.Plan
open Sql

/-- Parameters bound to values, numbered from a start. -/
def parameters : Nat → List Value → List Expr
  | _, [] => []
  | n, v :: vs => .param (paramName n) v :: parameters (n + 1) vs

/-- The values a test compares with. -/
def Test.values : Test → List Value
  | compare _ v => [v]
  | oneOf vs _ => vs

/-- The condition of a test, its parameters numbered from a start. -/
def Test.condition (e : Expr) (n : Nat) : Test → Expr
  | compare op v => .binary e op (.param (paramName n) v)
  | oneOf vs negated => .inList e (parameters n vs) negated

/-- A test and the expression it is about. -/
structure Constraint where
  expr : Expr
  test : Test

/-- The values of constraints, in order. -/
def boundValues (cs : List Constraint) : List Value :=
  cs.flatMap (·.test.values)

/-- The conditions of constraints, their parameters numbered from a start. -/
def conditions : Nat → List Constraint → List Expr
  | _, [] => []
  | n, c :: cs => c.test.condition c.expr n :: conditions (n + c.test.values.length) cs

/-- Conditions combined with AND, from the left. -/
def conjunction : List Expr → Option Expr
  | [] => none
  | e :: es => some (es.foldl (fun c e => .binary c "AND" e) e)

lemma conjunction_concat (es : List Expr) (e : Expr) :
    conjunction (es ++ [e]) =
      some (match conjunction es with | some c => .binary c "AND" e | none => e) := by
  cases es with
  | nil => rfl
  | cons d es => simp [conjunction, List.foldl_append]

lemma conditions_append (n : Nat) (cs ds : List Constraint) :
    conditions n (cs ++ ds) =
      conditions n cs ++ conditions (n + (boundValues cs).length) ds := by
  induction cs generalizing n with
  | nil => simp [conditions, boundValues]
  | cons c cs ih => simp [conditions, boundValues, ih, Nat.add_assoc]

lemma conjunction_conditions_eq_none {n : Nat} {cs : List Constraint} :
    conjunction (conditions n cs) = none ↔ cs = [] := by
  cases cs <;> simp [conditions, conjunction]

@[simp] lemma boundValues_append (cs ds : List Constraint) :
    boundValues (cs ++ ds) = boundValues cs ++ boundValues ds := by
  simp [boundValues]

/-- Binding values gives parameters numbered on from those bound before. -/
lemma bindAll_eq (b : Builder) (vs : List Value) :
    b.bindAll vs = (parameters b.values.length vs, { b with values := b.values ++ vs }) := by
  induction vs generalizing b with
  | nil => simp [Builder.bindAll, parameters]
  | cons v vs ih => simp [Builder.bindAll, Builder.bind, parameters, ih]

/-! ### Conditions keep the scope of what they test -/

lemma referencesAll_parameters (n : Nat) (vs : List Value) :
    Expr.referencesAll (parameters n vs) = [] := by
  induction vs generalizing n with
  | nil => rfl
  | cons v vs ih => simp [parameters, Expr.referencesAll, Expr.references, ih]

@[simp] lemma references_condition (t : Test) (e : Expr) (n : Nat) :
    (t.condition e n).references = e.references := by
  cases t <;> simp [Test.condition, Expr.references, referencesAll_parameters]

lemma mem_conditions {n : Nat} {cs : List Constraint} {e : Expr} (h : e ∈ conditions n cs) :
    ∃ c ∈ cs, ∃ k, e = c.test.condition c.expr k := by
  induction cs generalizing n with
  | nil => simp [conditions] at h
  | cons c cs ih =>
    rcases List.mem_cons.mp h with rfl | h
    · exact ⟨c, by simp, n, rfl⟩
    · obtain ⟨d, hd, k, hk⟩ := ih h
      exact ⟨d, by simp [hd], k, hk⟩

lemma references_foldl_and (e : Expr) (es : List Expr) :
    (es.foldl (fun c e => .binary c "AND" e) e).references =
      e.references ++ es.flatMap (·.references) := by
  induction es generalizing e with
  | nil => simp
  | cons f es ih => simp [ih, Expr.references]

/-- The columns of a conjunction are those of its parts. -/
lemma references_conjunction {es : List Expr} {c : Expr} (h : conjunction es = some c) :
    c.references = es.flatMap (·.references) := by
  cases es with
  | nil => cases h
  | cons e es =>
    obtain rfl := Option.some.inj h
    rw [references_foldl_and, List.flatMap_cons]

/-! ### Builders under constraints -/

/-- A builder whose condition and parameters are those of constraints. -/
def constrained (b : Builder) (cs : List Constraint) : Builder :=
  { b with condition := conjunction (conditions 0 cs), values := boundValues cs }

lemma constrained_nil {b : Builder} (hc : b.condition = none) (hv : b.values = []) :
    constrained b [] = b := by
  cases b
  simp_all [constrained, conditions, conjunction, boundValues]

/-- What one more constraint does to a builder. -/
lemma constrained_concat (b : Builder) (cs : List Constraint) (e : Expr) (t : Test) :
    constrained b (cs ++ [⟨e, t⟩]) =
      { ((constrained b cs).restrict (t.condition e (boundValues cs).length)) with
        values := boundValues cs ++ t.values } := by
  simp only [constrained, Builder.restrict, conditions_append, Nat.zero_add, conditions,
    conjunction_concat, boundValues_append]
  cases conjunction (conditions 0 cs) <;> simp [boundValues]

theorem applyTo_constrained (t : Test) (b : Builder) (cs : List Constraint)
    (column : String) :
    t.applyTo (constrained b cs) column =
      constrained b (cs ++ [⟨.column column none, t⟩]) := by
  rw [constrained_concat]
  cases t with
  | compare op v => rfl
  | oneOf vs negated => simp only [Test.applyTo, bindAll_eq]; rfl

theorem filterOn_constrained (b : Builder) (cs : List Constraint) (e : Expr) (v : Value) :
    filterOn (constrained b cs) e v = constrained b (cs ++ [⟨e, Test.ofGiven v⟩]) := by
  rw [constrained_concat]
  cases v with
  | list vs | tuple vs => simp only [filterOn, bindAll_eq]; rfl
  | _ => rfl

/-! ### Filters of aggregate queries -/

/-- The constraints of the filters that apply. -/
def applied (fr : Frame) (fs : List Filter) : List Constraint :=
  fs.filterMap fun f =>
    match filterTarget fr f with
    | .ok r => some ⟨columnOf r, Test.ofGiven f.value⟩
    | .error _ => none

lemma mem_applied {fr : Frame} {fs : List Filter} {c : Constraint} (h : c ∈ applied fr fs) :
    ∃ f ∈ fs, ∃ r, filterTarget fr f = .ok r ∧ c = ⟨columnOf r, Test.ofGiven f.value⟩ := by
  obtain ⟨f, hf, hc⟩ := List.mem_filterMap.mp h
  split at hc
  · rename_i r hr
    exact ⟨f, hf, r, hr, (Option.some.inj hc).symm⟩
  · cases hc

/-- The warnings for the filters that are ignored. -/
def ignored (fr : Frame) (fs : List Filter) : List String :=
  fs.filterMap fun f =>
    match filterTarget fr f with
    | .ok _ => none
    | .error w => some w

theorem applyFilters_constrained (fr : Frame) (b : Builder) (cs : List Constraint)
    (fs : List Filter) :
    applyFilters fr (constrained b cs) fs =
      (constrained b (cs ++ applied fr fs), ignored fr fs) := by
  induction fs generalizing cs with
  | nil => simp [applyFilters, applied, ignored]
  | cons f fs ih =>
    unfold applyFilters
    cases hf : filterTarget fr f with
    | ok r =>
      simp only [filterOn_constrained, ih]
      simp [applied, ignored, hf]
    | error w =>
      simp only [ih]
      simp [applied, ignored, hf]

end MetricLayer.Plan
