import MetricLayer.Proofs.Compile.Accounted
import MetricLayer.Proofs.Compile.Query
import MetricLayer.Proofs.Plan.Expansion

/-!
# Medians in MySQL

MySQL has no median. A query that is measured by one, and would be valid with another engine, is
refused: a query for a derived metric when its expression is expanded, before anything is looked
up, and a query for facts only when its statement is written, after its tables are looked up.
-/
namespace MetricLayer
open Plan

/-- The same connection with the engine of a dialect. -/
def Connection.on (c : Connection) (d : Dialect) : Connection := { c with dialect := d.name }

/-- The aggregates that a draft is measured by, over resolved joins: those of the facts on
linked tables, or those of all facts of a derived metric. -/
def Draft.aggregates (settings : Setup) (d : Draft) (join : JoinPlan) : List Aggregation :=
  match d.measured with
  | .facts aggregation =>
    (linkedFacts join d.facts).map fun f => aggregation.getD f.aggregation
  | .kpi _ e => e.facts.map (Kpi.aggregate settings.sumOnly)

/-- A query is measured by an aggregate. -/
def MeasureQuery.MeasuredBy (settings : Setup) (store : Store) (c : Connection)
    (catalog : Option (String → List String)) (m : MeasureQuery) (a : Aggregation) : Prop :=
  ∃ d join, m.draft settings store c = .ok d ∧
    Join.resolve d.facts d.dimensions d.mappings (d.known catalog) = .ok join ∧
    a ∈ d.aggregates settings join

namespace Compile

lemma item_median {aggregation : Option Aggregation} {f : Fact}
    (h : aggregation.getD f.aggregation = .median) :
    (measureOf aggregation f).item.render .mysql = .error (Sql.noMedian .mysql) := by
  rcases Sql.render_aggregate_mysql (aggregation.getD f.aggregation) f.column f.table with
    ⟨_, hrender⟩ | ⟨hother, _⟩
  · show (Sql.Expr.aliased (.call (aggregation.getD f.aggregation).name _ false) f.name).render
      .mysql = _
    rw [Sql.Expr.render, hrender]
    rfl
  · exact absurd h hother

/-- A plan that has a text in another dialect is refused for its medians. -/
lemma render_median {settings : Setup} {p : QueryPlan} {d : Dialect} {out : Compiled}
    (hok : render settings p d = .ok out) {e : Sql.Expr} (he : e ∈ p.statement.columns)
    (hmedian : e.render .mysql = .error (Sql.noMedian .mysql)) :
    render settings p .mysql = .error (Sql.noMedian .mysql) := by
  obtain ⟨text, htext, _⟩ := bind_eq_ok hok
  cases hmysql : p.statement.render .mysql with
  | ok text' =>
    obtain ⟨w, hw⟩ := Sql.Select.renders_columns hmysql he
    rw [hmedian] at hw
    cases hw
  | error x =>
    obtain rfl := Sql.Select.render_error_of_ok htext hmysql
    unfold render
    rw [hmysql]
    rfl

section
variable {settings : Setup} {store : Store} {c : Connection} {d : Draft}

/-- A query for facts has the same draft with every engine. -/
lemma draftFacts_on {q : FactQuery} {d' : Dialect}
    (h : draftFacts store (c.on d') q = .ok d) (engine : Dialect) :
    draftFacts store (c.on engine) q = .ok { d with dialect := engine } := by
  have hd := draftFacts_ok_iff.mp h
  exact draftFacts_ok_iff.mpr ⟨Dialect.ofName_name engine, hd.facts, hd.factIds, hd.dimensions,
    hd.mappings, hd.measured, hd.selected, hd.filters⟩

/-- A query for a derived metric that is measured by a median has no draft with MySQL. -/
lemma draftKpi_median {q : KpiQuery} {d' : Dialect} {join : JoinPlan}
    (h : draftKpi settings store (c.on d') q = .ok d)
    (hmedian : .median ∈ d.aggregates settings join) :
    draftKpi settings store (c.on .mysql) q = .error (Sql.noMedian .mysql) := by
  obtain ⟨k, all, e, _, hk, hall, he, _, hd⟩ := draftKpi_ok h
  rw [hd] at hmedian
  obtain ⟨f, hf, haggregate⟩ := List.mem_map.mp hmedian
  have hrefused := Kpi.expand_median he hf haggregate
  have hdialect : Dialect.ofName (c.on .mysql).dialect = .ok .mysql := Dialect.ofName_name .mysql
  change store.kpi? (c.on .mysql).id q.kpiId = some k at hk
  change store.factsOn (c.on .mysql).id = .ok all at hall
  unfold draftKpi
  simp only [hdialect, hk, hall, hrefused, bind, Except.bind]

/-- A draft for facts that is measured by a median is not completed with MySQL. -/
lemma complete_median {aggregation : Option Aggregation}
    {catalog : Option (String → List String)} {join : JoinPlan} {out : Compiled}
    (hmeasured : d.measured = .facts aggregation)
    (hjoin : Join.resolve d.facts d.dimensions d.mappings (d.known catalog) = .ok join)
    (hout : d.complete settings (d.known catalog) = .ok out)
    (hmedian : .median ∈ d.aggregates settings join) :
    { d with dialect := .mysql }.complete settings (d.known catalog) =
      .error (Sql.noMedian .mysql) := by
  obtain ⟨p, hplan, hrender⟩ := bind_eq_ok hout
  have hfacts : Plan.facts d.facts join d.selected d.filters aggregation = .ok p := by
    unfold Draft.plan at hplan
    rw [hjoin, hmeasured] at hplan
    exact hplan
  simp only [Draft.aggregates, hmeasured] at hmedian
  obtain ⟨f, hf, haggregate⟩ := List.mem_map.mp hmedian
  have hitem : (measureOf aggregation f).item ∈ p.statement.columns := by
    rw [facts_ok hfacts, filter_reaches]
    exact List.mem_append_left _ (List.mem_map_of_mem (List.mem_map_of_mem hf))
  show (d.plan (d.known catalog) >>= fun p => render settings p .mysql) = _
  rw [hplan]
  exact render_median hrender hitem (item_median haggregate)

end

end Compile
end MetricLayer
