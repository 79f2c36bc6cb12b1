import MetricLayer.Proofs.Compile.Draft
import MetricLayer.Proofs.Plan.Grammar
import MetricLayer.Proofs.Sql.Aggregate
import MetricLayer.Proofs.Sql.Builder
import MetricLayer.Proofs.Sql.Parts

/-!
# What is bound when a compiled request runs

The driver binds what it finds in the text. In a text that is compiled it finds every parameter of
the request, in order, and whatever looks like a parameter in the name of a table, a column or a
label, since names are quoted but their colons are not escaped. So it asks for exactly the
parameters of the request unless such a name is in the way.
-/
namespace MetricLayer
open Sql

namespace Plan

/-! ### Parts of planned statements -/

/-- A part in which a bind name can only be one of the numbered names or within an identifier. -/
def Tidy : Part → Prop
  | .identifier _ => True
  | .param name => ∃ n, name = paramName n
  | .word w => ':' ∉ w.toList

/-- Parts in which a bind name can only be within an identifier. -/
structure Inert (ps : List Part) : Prop where
  tidy : ∀ p ∈ ps, Tidy p
  params : ps.filterMap Part.param? = []

lemma Inert.nil : Inert [] := ⟨by simp, rfl⟩

lemma Inert.append {ps qs : List Part} (hp : Inert ps) (hq : Inert qs) : Inert (ps ++ qs) where
  tidy p h := (List.mem_append.1 h).elim (hp.tidy p) (hq.tidy p)
  params := by rw [List.filterMap_append, hp.params, hq.params, List.append_nil]

lemma Inert.flatMap {α : Type} {f : α → List Part} {xs : List α} (h : ∀ x ∈ xs, Inert (f x)) :
    Inert (xs.flatMap f) := by
  induction xs with
  | nil => exact .nil
  | cons x xs ih =>
    simp only [List.mem_cons, forall_eq_or_imp] at h
    exact h.1.append (ih h.2)

lemma inert_identifier (name : String) : Inert [.identifier name] :=
  ⟨by simp [Tidy], rfl⟩

lemma inert_word {w : String} (h : ':' ∉ w.toList) : Inert [.word w] :=
  ⟨by simpa [Tidy] using h, rfl⟩

/-- The bind names in tidy parts are those of the parameters and those within identifiers. -/
lemma mem_bindNames_tidy {ps : List Part} (h : ∀ p ∈ ps, Tidy p) {x : String} :
    x ∈ ps.flatMap Part.bindNames ↔
      x ∈ ps.filterMap Part.param? ∨ ∃ n ∈ ps.filterMap Part.identifier?, HasBindName n x := by
  induction ps with
  | nil => simp
  | cons p ps ih =>
    simp only [List.mem_cons, forall_eq_or_imp] at h
    rw [List.flatMap_cons, List.mem_append, ih h.2]
    cases p with
    | identifier name =>
      simp [Part.bindNames, Part.param?, Part.identifier?, mem_bindNames, or_left_comm]
    | param name =>
      obtain ⟨n, rfl⟩ := h.1
      simp [Part.bindNames, Part.param?, Part.identifier?, bindNames_param, or_assoc]
    | word w => simp [Part.bindNames, Part.param?, Part.identifier?, bindNames_of_no_colon h.1]

section
variable {d : Dialect}

lemma inert_column {e : Expr} (h : IsColumn e) : Inert (e.parts d) := by
  obtain ⟨c, t⟩ := h
  cases t with
  | none => exact inert_identifier c
  | some t => exact (inert_identifier t).append (inert_identifier c)

lemma inert_value {e : Expr} (h : IsValue e) : Inert (e.parts d) := by
  cases h with
  | column h => exact inert_column h
  | aggregate a c t =>
    have hcolumn : Inert ((Expr.column c (some t)).parts d) := inert_column ⟨c, some t⟩
    have hargs : ∀ w : String, ':' ∉ w.toList →
        Inert (.word w :: Expr.partsOfAll d [.column c (some t)]) :=
      fun w hw => (inert_word hw).append (hcolumn.append .nil)
    rw [Expr.parts, writing_aggregate]
    cases a with
    | median =>
      cases d with
      | postgres => exact hcolumn
      | mysql => exact .nil
    | stddev => exact (inert_word (w := "STDDEV_POP") (by decide)).append hcolumn
    | variance => exact (inert_word (w := "VAR_POP") (by decide)).append hcolumn
    | _ => exact hargs _ (by decide)

lemma inert_item {e : Expr} (h : IsItem e) : Inert (e.parts d) := by
  cases h with
  | star => exact .nil
  | bare h => exact inert_value h
  | aliased h label => exact (inert_value h).append (inert_identifier label)

lemma inert_join {j : Join} (h : IsJoin j) : Inert (j.parts d) := by
  obtain ⟨table, hl, hr⟩ := h
  exact (inert_identifier table).append
    ((inert_column hl).append ((inert_word (w := "=") (by decide)).append (inert_column hr)))

/-! ### Parameters of conditions -/

lemma tidy_test {e : Expr} (h : IsTest e) : ∀ p ∈ e.parts d, Tidy p := by
  cases h with
  | @compare column param op hc hop hp =>
    obtain ⟨n, v⟩ := hp
    have hcolon : ∀ op ∈ comparisons, ':' ∉ op.toList := by decide
    simp only [Expr.parts, List.mem_append, List.mem_cons, List.not_mem_nil, or_false]
    rintro p (hp | rfl | rfl)
    · exact (inert_column hc).tidy p hp
    · exact hcolon op hop
    · exact ⟨n, rfl⟩
  | @oneOf column params negated hc hp =>
    rw [Expr.parts, Expr.partsOfAll_eq]
    intro p hmem
    obtain hmem | hmem := List.mem_append.1 hmem
    · exact (inert_column hc).tidy p hmem
    · obtain ⟨e, he, hmem⟩ := List.mem_flatMap.1 hmem
      obtain ⟨n, v⟩ := hp e he
      obtain rfl := List.mem_singleton.1 hmem
      exact ⟨n, rfl⟩

lemma tidy_condition {e : Expr} (h : IsCondition e) : ∀ p ∈ e.parts d, Tidy p := by
  induction h with
  | test h => exact tidy_test h
  | both _ _ ihl ihr =>
    simp only [Expr.parts, List.mem_append, List.mem_cons]
    rintro p (hp | rfl | hp)
    · exact ihl p hp
    · show ':' ∉ "AND".toList
      decide
    · exact ihr p hp

/-- The parameters in the text of an expression, in order. -/
def paramsOf (d : Dialect) (e : Expr) : List String := (e.parts d).filterMap Part.param?

lemma paramsOf_parameters (n : Nat) (vs : List Value) :
    (parameters n vs).flatMap (paramsOf d) = (List.range' n vs.length).map paramName := by
  induction vs generalizing n with
  | nil => rfl
  | cons v vs ih =>
    rw [parameters, List.flatMap_cons, ih, List.length_cons, List.range'_succ]
    rfl

lemma paramsOf_test {c : Constraint} (hc : IsColumn c.expr) (n : Nat) :
    paramsOf d (c.test.condition c.expr n) =
      (List.range' n c.test.values.length).map paramName := by
  have hcolumn : (c.expr.parts d).filterMap Part.param? = [] := (inert_column hc).params
  cases c.test with
  | compare op v =>
    rw [paramsOf, Test.condition, Expr.parts, List.filterMap_append, hcolumn]
    rfl
  | oneOf vs negated =>
    have hparams := paramsOf_parameters (d := d) n vs
    rw [paramsOf, Test.condition, Expr.parts, List.filterMap_append, hcolumn, List.nil_append,
      Expr.partsOfAll_eq, List.filterMap_flatMap]
    exact hparams

lemma paramsOf_conditions {cs : List Constraint} (hcs : ∀ c ∈ cs, IsColumn c.expr) (n : Nat) :
    (conditions n cs).flatMap (paramsOf d) =
      (List.range' n (boundValues cs).length).map paramName := by
  induction cs generalizing n with
  | nil => rfl
  | cons c cs ih =>
    simp only [List.mem_cons, forall_eq_or_imp] at hcs
    have hlength : (boundValues (c :: cs)).length =
        c.test.values.length + (boundValues cs).length := by simp [boundValues]
    rw [conditions, List.flatMap_cons, paramsOf_test hcs.1, ih hcs.2, hlength, ← List.map_append,
      List.range'_append_1]

lemma paramsOf_foldl (es : List Expr) (e : Expr) :
    paramsOf d (es.foldl (fun c e => .binary c "AND" e) e) =
      paramsOf d e ++ es.flatMap (paramsOf d) := by
  induction es generalizing e with
  | nil => exact (List.append_nil _).symm
  | cons f es ih =>
    have hboth : paramsOf d (.binary e "AND" f) = paramsOf d e ++ paramsOf d f := by
      rw [paramsOf, Expr.parts, List.filterMap_append]
      rfl
    rw [List.foldl_cons, ih, List.flatMap_cons, hboth, List.append_assoc]

/-- The parameters of a condition are those of its constraints, in order. -/
lemma paramsOf_conjunction {cs : List Constraint} (hcs : ∀ c ∈ cs, IsColumn c.expr) {n : Nat} :
    ((conjunction (conditions n cs)).map (paramsOf d)).getD [] =
      (List.range' n (boundValues cs).length).map paramName := by
  rw [← paramsOf_conditions hcs]
  cases conditions n cs with
  | nil => rfl
  | cons e es => exact paramsOf_foldl es e

/-! ### Plans -/

/-- A plan within the grammar, with the parameters of its constraints. -/
structure BindsConstraints (p : QueryPlan) : Prop where
  phrased : Phrased p.statement
  bound : ∃ cs : List Constraint, (∀ c ∈ cs, IsColumn c.expr) ∧
    p.statement.condition = conjunction (conditions 0 cs) ∧
    p.params = (boundValues cs).mapIdx fun i v => (paramName i, v)

lemma facts_binds {fs : List Fact} {join : JoinPlan} {selected : List Int}
    {filters : List Filter} {aggregation : Option Aggregation} {p : QueryPlan}
    (h : facts fs join selected filters aggregation = .ok p) : BindsConstraints p := by
  refine ⟨facts_phrased h, ?_⟩
  rw [facts_ok h]
  refine ⟨applied (Frame.of join) filters, ?_, rfl, rfl⟩
  intro c hc
  obtain ⟨f, _, r, _, rfl⟩ := mem_applied hc
  exact ⟨r.column, some r.table⟩

lemma report_binds {r : Report} {runtime : List (Value × Value)} {p : QueryPlan}
    (h : report r runtime = .ok p) : BindsConstraints p := by
  refine ⟨(report_planned h).phrased, ?_⟩
  obtain ⟨stored, given, hp, _⟩ := report_ok h
  refine ⟨restrictions stored given, ?_, hp.condition, hp.params⟩
  intro c hc
  obtain hc | hc := List.mem_append.1 hc
  · obtain ⟨s, _, rfl⟩ := List.mem_map.1 hc
    exact ⟨s.1.column, none⟩
  · obtain ⟨g, _, rfl⟩ := List.mem_map.1 hc
    exact ⟨g.1, none⟩

/-- The parts of a statement before its condition and behind it. -/
lemma parts_phrased {s : Select} (h : Phrased s) : ∃ before after, Inert before ∧ Inert after ∧
    s.parts d = before ++ ((s.condition.map (Expr.parts d)).getD [] ++ after) := by
  obtain ⟨table, hsource⟩ := h.source
  have hcolumns : Inert (s.columns.flatMap (Expr.parts d)) :=
    .flatMap fun e he => inert_item (h.columns e he)
  have hjoins : Inert (s.joins.flatMap (Join.parts d)) :=
    .flatMap fun j hj => inert_join (h.joins j hj)
  have hgroups : Inert (s.groups.flatMap (Expr.parts d)) :=
    .flatMap fun e he => inert_column (h.groups e he)
  refine ⟨_, _, hcolumns.append ((inert_identifier table).append hjoins), hgroups, ?_⟩
  rw [Select.parts, hsource, h.limit]
  simp [tableParts]

lemma tidy_statement {s : Select} (h : Phrased s) : ∀ p ∈ s.parts d, Tidy p := by
  obtain ⟨before, after, hbefore, hafter, hparts⟩ := parts_phrased (d := d) h
  rw [hparts]
  intro p hp
  simp only [List.mem_append] at hp
  obtain hp | hp | hp := hp
  · exact hbefore.tidy p hp
  · cases hcondition : s.condition with
    | none =>
      rw [hcondition] at hp
      cases hp
    | some e =>
      rw [hcondition] at hp
      exact tidy_condition (h.condition e hcondition) p hp
  · exact hafter.tidy p hp

/-- The parameters in the text of a planned statement are those of the plan, in order. -/
lemma BindsConstraints.params_eq {p : QueryPlan} (h : BindsConstraints p) :
    p.statement.paramNames d = p.params.map (·.1) := by
  obtain ⟨before, after, hbefore, hafter, hparts⟩ := parts_phrased (d := d) h.phrased
  obtain ⟨cs, hcs, hcondition, hparams⟩ := h.bound
  have hconjunction := paramsOf_conjunction (d := d) hcs (n := 0)
  have hoption : ((p.statement.condition.map (Expr.parts d)).getD []).filterMap Part.param? =
      (p.statement.condition.map (paramsOf d)).getD [] := by
    cases p.statement.condition <;> rfl
  have hkeys : p.params.map (·.1) = (List.range' 0 (boundValues cs).length).map paramName := by
    rw [hparams, ← List.range_eq_range', paramNames_eq]
  rw [Select.paramNames, hparts, List.filterMap_append, List.filterMap_append, hbefore.params,
    hafter.params, hoption, hcondition, hconjunction, hkeys, List.nil_append, List.append_nil]

end
end Plan

/-! ### Compiled requests -/

/-- The driver binds exactly the parameters of a compiled request. -/
def Compiled.Exact (c : Compiled) : Prop := ∀ x, HasBindName c.sql x ↔ x ∈ c.params.map (·.1)

/-- A compiled request is the text of a statement. The driver finds its parameters, and what looks
like parameters in the identifiers of the statement. -/
structure Bound (s : Select) (c : Compiled) : Prop where
  text : s.render c.dialect = .ok c.sql
  params : s.paramNames c.dialect = c.params.map (·.1)
  found : ∀ x, HasBindName c.sql x ↔
    x ∈ c.params.map (·.1) ∨ ∃ n ∈ s.identifiers c.dialect, HasBindName n x

lemma Bound.exact_iff {s : Select} {c : Compiled} (h : Bound s c) :
    c.Exact ↔ ∀ n ∈ s.identifiers c.dialect, ∀ x, HasBindName n x → x ∈ c.params.map (·.1) := by
  constructor
  · intro hexact n hn x hx
    exact (hexact x).1 ((h.found x).2 (.inr ⟨n, hn, hx⟩))
  · intro hnames x
    rw [h.found]
    constructor
    · rintro (hx | ⟨n, hn, hx⟩)
      · exact hx
      · exact hnames n hn x hx
    · exact .inl

namespace Compile
open Plan

lemma bound_of_render {settings : Setup} {p : QueryPlan} (hp : BindsConstraints p)
    {d : Dialect} {c : Compiled} (h : render settings p d = .ok c) : Bound p.statement c := by
  obtain ⟨sql, hsql, h⟩ := bind_eq_ok h
  obtain rfl := Except.ok.inj h
  refine ⟨hsql, hp.params_eq, fun x => ?_⟩
  dsimp only
  rw [← mem_bindNames, Select.bindNames_render hsql,
    mem_bindNames_tidy (tidy_statement hp.phrased), ← Select.paramNames, hp.params_eq,
    Select.identifiers]

/-- What is compiled for a fact request or a report. -/
inductive CompiledFor (settings : Setup) (c : Compiled) : Prop
  | facts {store : Store} {connection : Connection} {q : FactQuery}
    {catalog : Option (String → List String)}
    (h : facts settings store connection q catalog = .ok c)
  | report {r : Report} {dialect : String} {runtime : List (Value × Value)}
    (h : report settings r dialect runtime = .ok c)

lemma CompiledFor.exists_plan {settings : Setup} {c : Compiled} (h : CompiledFor settings c) :
    ∃ p d, BindsConstraints p ∧ render settings p d = .ok c := by
  cases h with
  | facts h =>
    obtain ⟨d, hdraft, h⟩ := bind_eq_ok h
    obtain ⟨p, hp, h⟩ := bind_eq_ok h
    obtain ⟨join, _, hp⟩ := bind_eq_ok hp
    rw [(draftFacts_ok_iff.1 hdraft).measured] at hp
    exact ⟨p, _, facts_binds hp, h⟩
  | report h =>
    obtain ⟨d, _, h⟩ := bind_eq_ok h
    obtain ⟨p, hp, h⟩ := bind_eq_ok h
    exact ⟨p, d, report_binds hp, h⟩

/-- In the text of a fact request or a report, whatever its tables, columns and labels are called,
the driver finds all its parameters, and otherwise only names within identifiers. So it binds
exactly the parameters if and only if no identifier of the statement holds another bind name. -/
theorem compiled_bound {settings : Setup} {c : Compiled} (h : CompiledFor settings c) :
    ∃ s, Bound s c ∧
      (c.Exact ↔
        ∀ n ∈ s.identifiers c.dialect, ∀ x, HasBindName n x → x ∈ c.params.map (·.1)) := by
  obtain ⟨p, d, hp, hrender⟩ := h.exists_plan
  have hbound := bound_of_render hp hrender
  exact ⟨p.statement, hbound, hbound.exact_iff⟩

/-- The matches of one season, with a label that says how the score is written. -/
def scores : Report where
  id := 1
  connectionId := 1
  name := "Scores"
  table := "matches"
  columns := [{ column := "score", label := some "Score (home :away)" }]
  filters := [⟨"season", "=", .int 2024, false, 0⟩]

/-- The number of matches, stored under such a name. -/
def matchStore : Store :=
  .memory { facts := [⟨1, 1, "Matches (home :away)", "matches", "id", .count⟩] }

def matchConnection : Connection := ⟨1, none, "league", "mysql", "db", 3306, "league", "u", "p",
  none, none, none⟩

lemma outline_scores : outline (report { validateSql := false } scores "postgres" []) =
    some ("SELECT \"score\" AS \"Score (home :away)\"\nFROM \"matches\"\n" ++
      "WHERE (\"season\" = :p0)", ["p0"]) := by
  decide +kernel

/-- A report and a fact request for which the driver finds their parameters. -/
theorem compiled_bound_matches :
    (∃ c, report { validateSql := false } scores "postgres" [] = .ok c ∧
      c.params.map (·.1) = ["p0"] ∧ ∃ s, Bound s c ∧
        (c.Exact ↔
          ∀ n ∈ s.identifiers c.dialect, ∀ x, HasBindName n x → x ∈ c.params.map (·.1))) ∧
    ∃ c, facts { validateSql := false } matchStore matchConnection ⟨[1], [], none, []⟩ none =
        .ok c ∧
      ∃ s, Bound s c ∧ (c.Exact ↔
        ∀ n ∈ s.identifiers c.dialect, ∀ x, HasBindName n x → x ∈ c.params.map (·.1)) := by
  refine ⟨?_, ?_⟩
  · obtain ⟨c, hc, -, hkeys⟩ := exists_of_outline outline_scores
    exact ⟨c, hc, hkeys, compiled_bound (.report hc)⟩
  · have hfacts : facts { validateSql := false } matchStore matchConnection ⟨[1], [], none, []⟩
        none = .ok _ := rfl
    exact ⟨_, hfacts, compiled_bound (.facts hfacts)⟩

/-- The label of a column makes the driver ask for a value that the request does not have. -/
theorem label_bound : ∃ c, report { validateSql := false } scores "postgres" [] = .ok c ∧
    HasBindName c.sql "away" ∧ c.params.map (·.1) = ["p0"] ∧ ¬ c.Exact := by
  obtain ⟨c, hc, hsql, hkeys⟩ := exists_of_outline outline_scores
  have haway : HasBindName c.sql "away" := by
    rw [hsql]
    decide +kernel
  refine ⟨c, hc, haway, hkeys, fun hexact => ?_⟩
  have hmem := (hexact "away").1 haway
  rw [hkeys] at hmem
  exact absurd hmem (by decide)

end Compile
end MetricLayer
