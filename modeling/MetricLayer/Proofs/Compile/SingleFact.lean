import MetricLayer.Proofs.Plan.Grouping
import MetricLayer.Proofs.Plan.Substitution
import MetricLayer.Proofs.Service.Interchange
import MetricLayer.Proofs.Sql.Spelling
import MetricLayer.Proofs.Store.Connection

/-!
# Derived metrics that are one fact

A derived metric whose expression expands to the aggregate of one fact compiles like that fact:
the same tables are needed, both queries fail in the same way, and their statements differ only
in the labels of their columns.
-/
namespace MetricLayer

/-! ### Statements that differ in labels -/

namespace Sql

/-- A column under two labels. -/
inductive Relabelled : Expr → Expr → Prop
  | intro (column : String) (table : Option String) (label label' : String) :
    Relabelled (.aliased (.column column table) label) (.aliased (.column column table) label')

lemma render_aliased {d : Dialect} {e : Expr} (h : ∃ s, e.render d = .ok s) (label : String) :
    ∃ s, (Expr.aliased e label).render d = .ok s := by
  obtain ⟨s, hs⟩ := h
  rw [Expr.render, hs]
  exact ⟨_, rfl⟩

lemma render_aliased_column (d : Dialect) (column : String) (table : Option String)
    (label : String) : ∃ s, (Expr.aliased (.column column table) label).render d = .ok s := by
  refine render_aliased ?_ label
  cases table <;> exact ⟨_, by rw [Expr.render]⟩

lemma exists_columnsLine {d : Dialect} {columns : List Expr}
    (h : ∀ e ∈ columns, ∃ s, e.render d = .ok s) :
    ∃ line, Select.columnsLine d columns = .ok line := by
  unfold Select.columnsLine
  split
  · exact ⟨_, rfl⟩
  · obtain ⟨ss, hss⟩ := exists_renderAll h
    rw [hss]
    exact ⟨_, rfl⟩

/-- Statements that differ in columns, all of which have texts, have texts together. -/
lemma render_together {d : Dialect} {s : Select} {columns : List Expr}
    (hs : ∀ e ∈ s.columns, ∃ text, e.render d = .ok text)
    (ht : ∀ e ∈ columns, ∃ text, e.render d = .ok text) :
    Together (fun _ _ => True) (s.render d) ({ s with columns := columns }.render d) := by
  obtain ⟨line, hline⟩ := exists_columnsLine hs
  obtain ⟨line', hline'⟩ := exists_columnsLine ht
  have hcolumns : Together (fun _ _ => True) (Select.columnsLine d s.columns)
      (Select.columnsLine d columns) := by
    rw [hline, hline']
    exact .ok trivial
  have hlines : Together (fun _ _ => True) (s.lines d)
      ({ s with columns := columns }.lines d) :=
    hcolumns.bind fun _ _ _ _ _ => .bind_same fun _ _ => .bind_same fun _ _ =>
      .bind_same fun _ _ => .ok trivial
  exact hlines.bind fun _ _ _ _ _ => .ok trivial

end Sql

namespace Plan
open Sql

/-- Columns from the same places differ in their labels. -/
lemma relabelled_of_places {xs ys : List (String × String × String)}
    (h : xs.map place = ys.map place) :
    List.Forall₂ Relabelled (xs.map fun (t, c, label) => .aliased (.column c (some t)) label)
      (ys.map fun (t, c, label) => .aliased (.column c (some t)) label) := by
  induction xs generalizing ys with
  | nil =>
    rw [List.map_eq_nil_iff.mp h.symm]
    exact .nil
  | cons x xs ih =>
    cases ys with
    | nil => cases h
    | cons y ys =>
      obtain ⟨t, c, label⟩ := x
      obtain ⟨u, e, label'⟩ := y
      obtain ⟨hplace, hrest⟩ := List.cons.inj h
      obtain ⟨rfl, rfl⟩ := Prod.mk.inj hplace
      exact .cons ⟨c, some t, label, label'⟩ (ih hrest)

/-- The aggregate of a fact. -/
def aggregateOf (f : Fact) : Expr :=
  .call f.aggregation.name [.column f.column (some f.table)] false

/-- A statement selects the text of the aggregate of a fact under the label of derived metrics
where another selects the aggregate under its own; all other columns differ in labels only, and
the other clauses are the same. -/
structure LikeFact (d : Dialect) (f : Fact) (text : String) (s t : Select) : Prop where
  measure : (aggregateOf f).render d = .ok text
  columns : ∃ shown shown', s.columns = .aliased (aggregateOf f) f.name :: shown ∧
    t.columns = .raw (text ++ " AS " ++ kpiLabel) :: shown' ∧
    List.Forall₂ Relabelled shown shown'
  clauses : t = { s with columns := t.columns }

lemma likeFact_assembled {d : Dialect} {f : Fact} {text : String}
    (h : (aggregateOf f).render d = .ok text) (fr : Frame) (selected : List Int)
    (filters : List Filter) (warnings : List String) :
    LikeFact d f text (assembled fr [measureOf none f] selected filters warnings).statement
      (assembled fr [kpiMeasure ⟨text, [f]⟩] selected filters warnings).statement := by
  have hplaces : (labelled [measureOf none f] (fr.chosen selected)).map place =
      (labelled [kpiMeasure ⟨text, [f]⟩] (fr.chosen selected)).map place := by
    rw [places_labelled, places_labelled]
  refine ⟨h, ⟨_, _, rfl, rfl, relabelled_of_places hplaces⟩, ?_⟩
  simp only [assembled, hplaces]

lemma LikeFact.renders {d : Dialect} {f : Fact} {text : String} {s t : Select}
    (h : LikeFact d f text s t) :
    (∀ e ∈ s.columns, ∃ w, e.render d = .ok w) ∧ ∀ e ∈ t.columns, ∃ w, e.render d = .ok w := by
  obtain ⟨shown, shown', hs, ht, hshown⟩ := h.columns
  rw [hs, ht, List.forall_mem_cons, List.forall_mem_cons]
  refine ⟨⟨render_aliased ⟨text, h.measure⟩ f.name, ?_⟩, ⟨_, by rw [Expr.render]⟩, ?_⟩
  · intro e he
    obtain ⟨_, _, ⟨column, table, label, _⟩⟩ := exists_of_forall₂ hshown.flip he
    exact render_aliased_column d column table label
  · intro e he
    obtain ⟨_, _, ⟨column, table, _, label'⟩⟩ := exists_of_forall₂ hshown he
    exact render_aliased_column d column table label'

/-- The statements of like plans have texts together. -/
lemma LikeFact.together {d : Dialect} {f : Fact} {text : String} {s t : Select}
    (h : LikeFact d f text s t) : Together (fun _ _ => True) (s.render d) (t.render d) := by
  rw [h.clauses]
  exact render_together h.renders.1 h.renders.2

end Plan

/-! ### Compiled queries -/

/-- A compiled query for a derived metric is that for a fact but for labels, the name of its
measure and what is said of its text. -/
structure CompiledLike (d : Dialect) (f : Fact) (text metric : String) (x y : Compiled) :
    Prop where
  statements : ∃ s t : Sql.Select, s.render d = .ok x.sql ∧ t.render d = .ok y.sql ∧
    Plan.LikeFact d f text s t
  dialect : x.dialect = d ∧ y.dialect = d
  params : y.params = x.params
  base : y.resolved.base = x.resolved.base
  tables : y.resolved.tables = x.resolved.tables
  dimensions : y.resolved.dimensions = x.resolved.dimensions
  measures : x.resolved.measures = [f.name] ∧ y.resolved.measures = [metric]
  warnings : ∃ shared problems problems' : List String,
    x.warnings = shared ++ problems.map ("SQL validation: " ++ ·) ∧
      y.warnings = shared ++ problems'.map ("SQL validation: " ++ ·)

namespace Compile
open Plan

variable {settings : Setup} {store : Store} {c : Connection} {d : Dialect} {f : Fact}
  {text metric : String}

/-- Over joins from the table of the fact, neither plan has warnings about facts, and they are
rendered alike. -/
lemma render_like (h : Kpi.fragment d false f = .ok text) {join : JoinPlan}
    (hbase : join.base = f.table) (selected : List Int) (filters : List Filter) :
    Together (CompiledLike d f text metric)
      (Plan.facts [f] join selected filters none >>= fun p => render settings p d)
      (Plan.kpi metric ⟨text, [f]⟩ join selected filters >>= fun p => render settings p d) := by
  have hreach : (Frame.of join).reaches f.table = true := by
    rw [reaches_iff, hbase]
    exact .refl
  have hplans : Together (fun p q =>
      p = assembled (Frame.of join) [measureOf none f] selected filters join.warnings ∧
        q = { assembled (Frame.of join) [kpiMeasure ⟨text, [f]⟩] selected filters
          join.warnings with measures := [metric] })
      (Plan.facts [f] join selected filters none)
      (Plan.kpi metric ⟨text, [f]⟩ join selected filters) := by
    have hfacts : Plan.facts [f] join selected filters none =
        assemble (Frame.of join) [measureOf none f] selected filters join.warnings := by
      simp [Plan.facts, hreach]
    have hkpi : Plan.kpi metric ⟨text, [f]⟩ join selected filters =
        assemble (Frame.of join) [kpiMeasure ⟨text, [f]⟩] selected filters join.warnings >>=
          fun p => .ok { p with measures := [metric] } := by
      simp [Plan.kpi, hreach, kpiMeasure]
      rfl
    rw [hfacts, hkpi, assemble_eq, assemble_eq]
    split
    · exact .error _
    · exact .ok ⟨rfl, rfl⟩
  refine hplans.bind ?_
  rintro p q _ _ ⟨rfl, rfl⟩
  have hlike := likeFact_assembled h (Frame.of join) selected filters join.warnings
  refine hlike.together.bind ?_
  intro sql sql' hsql hsql' _
  exact .ok ⟨⟨_, _, hsql, hsql', hlike⟩, ⟨rfl, rfl⟩, rfl, rfl, rfl, rfl, ⟨rfl, rfl⟩,
    _, _, _, rfl, rfl⟩

/-- The draft of a query that is measured by one fact. -/
def draftOf (store : Store) (d : Dialect) (f : Fact) (measured : Measured) (selected : List Int)
    (filters : List Filter) (ds : List Dimension) : Draft :=
  ⟨d, [f], ds, store.mappingsOf [f.id] (some (ds.map (·.id))), measured, selected, filters⟩

lemma draftFacts_single (hkeyed : store.Keyed) (hdialect : Dialect.ofName c.dialect = .ok d)
    {all : List Fact} (hall : store.factsOn c.id = .ok all) (hf : f ∈ all) (selected : List Int)
    (filters : List Filter) :
    draftFacts store c ⟨[f.id], selected, none, filters⟩ =
      loadDimensions store c.id selected filters >>= fun ds =>
        .ok (draftOf store d f (.facts none) selected filters ds) := by
  have hfacts := Store.factsOf_singleton hkeyed hall hf
  have herase : [f.id].eraseDups = [f.id] := eraseDups_of_nodup (List.nodup_singleton _)
  have hfound : requireAll "fact" c.id [f.id] ([f].map (·.id)) = .ok () := by
    simp [requireAll_ok_iff]
  unfold draftFacts
  simp only [hdialect, herase, hfacts, hfound, bind, Except.bind]
  rfl

lemma draftKpi_single (hsum : settings.sumOnly = false)
    (hdialect : Dialect.ofName c.dialect = .ok d) {all : List Fact}
    (hall : store.factsOn c.id = .ok all) {id : Int} {k : Kpi}
    (hk : store.kpi? c.id id = some k)
    (hexpand : Kpi.expand d false k.expression all = .ok ⟨text, [f]⟩) (selected : List Int)
    (filters : List Filter) :
    draftKpi settings store c ⟨id, selected, filters⟩ =
      loadDimensions store c.id selected filters >>= fun ds =>
        .ok (draftOf store d f (.kpi k.name ⟨text, [f]⟩) selected filters ds) := by
  unfold draftKpi
  simp only [hdialect, hk, hall, hsum, hexpand, bind, Except.bind]
  rfl

/-- With the same columns, both drafts are completed alike or fail alike. -/
lemma complete_like (h : Kpi.fragment d false f = .ok text) (selected : List Int)
    (filters : List Filter) (ds : List Dimension) (columns : Option Join.Columns) :
    Together (CompiledLike d f text metric)
      ((draftOf store d f (.facts none) selected filters ds).complete settings columns)
      ((draftOf store d f (.kpi metric ⟨text, [f]⟩) selected filters ds).complete settings
        columns) := by
  obtain ⟨join, hjoin⟩ := Join.exists_resolve (List.cons_ne_nil f []) ds
    (store.mappingsOf [f.id] (some (ds.map (·.id)))) columns
  have hbase : join.base = f.table := (Option.some.inj (Join.base_eq hjoin)).symm
  have hfacts : (draftOf store d f (.facts none) selected filters ds).plan columns =
      Plan.facts [f] join selected filters none := by
    simp only [Draft.plan, draftOf, hjoin]
    rfl
  have hkpi : (draftOf store d f (.kpi metric ⟨text, [f]⟩) selected filters ds).plan columns =
      Plan.kpi metric ⟨text, [f]⟩ join selected filters := by
    simp only [Draft.plan, draftOf, hjoin]
    rfl
  unfold Draft.complete
  rw [hfacts, hkpi]
  exact render_like h hbase selected filters

/-- A catalog answers for all tables. -/
lemma compileBy_catalog (catalog : Option (String → List String)) (m : MeasureQuery) :
    m.compileBy settings store c (fun needed =>
      .ok (catalog.map fun columns => needed.map fun t => (t, columns t))) =
      m.compile settings store c catalog := by
  rw [MeasureQuery.compile_eq]
  rfl

/-- A derived metric whose expression expands to the aggregate of one fact compiles like that
fact, with every catalog and whatever is answered about the tables that are needed. -/
theorem kpi_like_fact (hkeyed : store.Keyed) (hsum : settings.sumOnly = false)
    (hdialect : Dialect.ofName c.dialect = .ok d) {all : List Fact}
    (hall : store.factsOn c.id = .ok all) {id : Int} {k : Kpi}
    (hk : store.kpi? c.id id = some k) (hfragment : Kpi.fragment d false f = .ok text)
    (hexpand : Kpi.expand d false k.expression all = .ok ⟨text, [f]⟩)
    (selected : List Int) (filters : List Filter) :
    (∀ catalog, Together (CompiledLike d f text k.name)
      (facts settings store c ⟨[f.id], selected, none, filters⟩ catalog)
      (kpi settings store c ⟨id, selected, filters⟩ catalog)) ∧
    ∀ answer : List String → Except Fault (Option Join.Columns),
      Together (CompiledLike d f text k.name)
        ((MeasureQuery.facts ⟨[f.id], selected, none, filters⟩).compileBy settings store c answer)
        ((MeasureQuery.kpi ⟨id, selected, filters⟩).compileBy settings store c answer) := by
  have hf : f ∈ all := Kpi.mem_expand hexpand List.mem_cons_self
  have hanswers : ∀ answer : List String → Except Fault (Option Join.Columns),
      Together (CompiledLike d f text k.name)
        ((MeasureQuery.facts ⟨[f.id], selected, none, filters⟩).compileBy settings store c answer)
        ((MeasureQuery.kpi ⟨id, selected, filters⟩).compileBy settings store c answer) := by
    intro answer
    simp only [MeasureQuery.compileBy, MeasureQuery.draft]
    rw [draftFacts_single hkeyed hdialect hall hf, draftKpi_single hsum hdialect hall hk hexpand]
    cases loadDimensions store c.id selected filters with
    | error x => exact .error x
    | ok ds => exact .bind_same fun columns _ => complete_like hfragment selected filters ds columns
  refine ⟨fun catalog => ?_, hanswers⟩
  have h := hanswers fun needed =>
    .ok (catalog.map fun columns => needed.map fun t => (t, columns t))
  rw [compileBy_catalog, compileBy_catalog] at h
  exact h

/-- The gross revenue of orders by region is their revenue. -/
theorem kpi_like_fact_gross :
    (Store.memory Service.market).Keyed ∧
      Kpi.expand .postgres false "Revenue" Service.market.facts =
        .ok ⟨"SUM(\"orders\".\"amount\")", [⟨1, 1, "Revenue", "orders", "amount", .sum⟩]⟩ ∧
      ∃ x y, facts { validateSql := false } (.memory Service.market) Service.marketConnection
          ⟨[1], [1], none, [⟨1, .str "EU"⟩]⟩ none = .ok x ∧
        kpi { validateSql := false } (.memory Service.market) Service.marketConnection
          ⟨2, [1], [⟨1, .str "EU"⟩]⟩ none = .ok y ∧
        CompiledLike .postgres ⟨1, 1, "Revenue", "orders", "amount", .sum⟩
          "SUM(\"orders\".\"amount\")" "Gross" x y := by
  have hkeyed : (Store.memory Service.market).Keyed := ⟨by decide, by decide⟩
  have hexpand : Kpi.expand .postgres false "Revenue" Service.market.facts =
      .ok ⟨"SUM(\"orders\".\"amount\")", [⟨1, 1, "Revenue", "orders", "amount", .sum⟩]⟩ := by
    rw [Kpi.expand, Kpi.namesByLength_of_sorted Service.market.facts (by decide +kernel)]
    decide +kernel
  have hsettings : ({ validateSql := false } : Setup).sumOnly = false := rfl
  have hdialect : Dialect.ofName Service.marketConnection.dialect = .ok .postgres := rfl
  have hk : (Store.memory Service.market).kpi? Service.marketConnection.id 2 =
      some ⟨2, 1, "Gross", "Revenue", none⟩ := rfl
  obtain ⟨hcatalog, _⟩ := kpi_like_fact hkeyed hsettings hdialect rfl hk rfl hexpand [1]
    [⟨1, .str "EU"⟩]
  obtain ⟨y, hy, hlike⟩ := (hcatalog none).of_ok rfl
  exact ⟨hkeyed, hexpand, _, y, rfl, hy, hlike⟩

end Compile
end MetricLayer
