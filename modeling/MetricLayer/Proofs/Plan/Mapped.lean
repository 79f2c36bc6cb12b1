import MetricLayer.Proofs.Join.LeftOut
import MetricLayer.Proofs.Plan.Scope

/-!
# Explicit mappings in planned statements

The join tree takes the first edge between two tables and leaves one edge of each circle out, so
a mapping reaches the statement unless another edge between its tables comes first, or the edge
of its tables is the one left out. Otherwise the equality of its columns follows from the join
conditions.
-/
namespace MetricLayer.Sql

/-- The columns that an expression equates, if it is an equality of qualified columns. -/
def Expr.equated? : Expr → Option ((String × String) × (String × String))
  | .binary (.column c (some t)) op (.column d (some u)) =>
    if op == "=" then some ((t, c), (u, d)) else none
  | _ => none

namespace Select

/-- The pairs of columns that the joins of a statement equate. -/
def equated (s : Select) : List ((String × String) × (String × String)) :=
  s.joins.filterMap fun j => j.on.bind Expr.equated?

/-- Columns whose equality follows from the join conditions, by symmetry and transitivity. -/
def Equates (s : Select) : String × String → String × String → Prop :=
  Relation.EqvGen fun a b => (a, b) ∈ s.equated

/-- Equal columns are in one class of any partition that the join conditions respect. -/
lemma Equates.same_class {s : Select} {a b : String × String} (h : s.Equates a b)
    (inClass : String × String → Bool)
    (hclass : ∀ p ∈ s.equated, inClass p.1 = inClass p.2) : inClass a = inClass b := by
  induction h with
  | rel a b hab => exact hclass (a, b) hab
  | refl => rfl
  | symm a b _ ih => exact ih.symm
  | trans a b c _ _ ihab ihbc => exact ihab.trans ihbc

end Select
end MetricLayer.Sql

namespace MetricLayer.Join

/-- The columns that an edge equates. -/
def ends (e : JoinEdge) : (String × String) × (String × String) :=
  ((e.table, e.dimensionColumn), (e.factTable, e.factColumn))

/-- A different pair of columns, in whatever order it is written. -/
def OtherColumns (e f : JoinEdge) : Prop :=
  ends e ≠ ends f ∧ ends e ≠ (ends f).swap

end MetricLayer.Join

namespace MetricLayer.Plan
open Sql Join

lemma equated_assembled (fr : Frame) (measures : List Measure) (selected : List Int)
    (filters : List Filter) (warnings : List String) {s : JoinStep}
    (hs : s ∈ stepsFrom fr.edges fr.join.base) :
    ((s.table, s.column), (s.parent, s.parentColumn)) ∈
      (assembled fr measures selected filters warnings).statement.equated := by
  refine List.mem_filterMap.mpr ⟨joinOf s, List.mem_map_of_mem hs, ?_⟩
  simp [joinOf, JoinStep.condition, equality, Expr.equated?]

/-- A step over an edge equates the columns of the edge. -/
lemma equates_of_over {fr : Frame} {measures : List Measure} {selected : List Int}
    {filters : List Filter} {warnings : List String} {s : JoinStep} {e : JoinEdge}
    (hs : s ∈ stepsFrom fr.edges fr.join.base) (hse : IsOver s e) :
    (assembled fr measures selected filters warnings).statement.Equates
      (ends e).1 (ends e).2 := by
  have hmem := equated_assembled fr measures selected filters warnings hs
  rcases hse with rfl | rfl
  · exact .symm _ _ (.rel _ _ hmem)
  · exact .rel _ _ hmem

/-- An edge that is not on other columns than another equates the same columns. -/
lemma equates_of_same_columns {s : Select} {e f : JoinEdge} (h : s.Equates (ends e).1 (ends e).2)
    (hcolumns : ¬ OtherColumns e f) : s.Equates (ends f).1 (ends f).2 := by
  rw [OtherColumns, not_and_or, not_not, not_not] at hcolumns
  rcases hcolumns with hends | hends
  · rw [hends] at h
    exact h
  · rw [hends] at h
    exact .symm _ _ h

lemma table_mem_of_measure {join : JoinPlan} {p : QueryPlan} (hg : Grounded join p)
    {aggregation : Option Aggregation} {f : Fact}
    (h : (measureOf aggregation f).item ∈ p.statement.columns) : f.table ∈ p.tables := by
  have hwithin := hg.wellScoped.columns _ h (f.column, some f.table)
    (by simp [measureOf, Measure.item, Expr.references, Expr.referencesAll])
  obtain ⟨t, ht, heq⟩ := hwithin
  rw [hg.tables, Option.some.inj heq]
  exact ht

/-- An explicit mapping of a measured fact onto another table reaches the statement, unless the
first edge between its tables is on other columns, or the tree leaves its edge out. -/
theorem mapping_honoured (fs : List Fact) (dimensions : List Dimension)
    (mappings : List Mapping) (columns : Option Columns) (join : JoinPlan)
    (selected : List Int) (filters : List Filter) (aggregation : Option Aggregation)
    (p : QueryPlan) (hjoin : resolve fs dimensions mappings columns = .ok join)
    (hp : facts fs join selected filters aggregation = .ok p)
    (f : Fact) (hf : f ∈ fs) (hmeasured : (measureOf aggregation f).item ∈ p.statement.columns)
    (d : Dimension) (hd : d ∈ dimensions) (m : Mapping)
    (hm : mappingOf mappings f.id d.id = some m) (hother : m.joinTable ≠ f.table) :
    p.statement.Equates (m.joinTable, m.dimensionColumn) (f.table, m.factColumn) ∨
      (∃ e, (join.edges ++ join.links).find? (samePair (mappedEdge f m)) = some e ∧
        OtherColumns e (mappedEdge f m)) ∨
      LeftOut (join.edges ++ join.links) join.base (mappedEdge f m) := by
  have hg := facts_grounded hp
  have hlink : mappedEdge f m ∈ join.edges ++ join.links :=
    List.mem_append_right _ (mem_links_of_pair hjoin hf hd (by rw [pair_mapped hm]; rfl))
  have hfact : f.table ∈ reachable (join.edges ++ join.links) join.base :=
    mem_reachable.mpr ((hg.linked f.table).mp (table_mem_of_measure hg hmeasured))
  have hjoined : m.joinTable ∈ reachable (join.edges ++ join.links) join.base :=
    mem_reachable.mpr ((mem_reachable.mp hfact).trans (Linked.of_edge hlink).symm)
  obtain ⟨e, he⟩ := Option.isSome_iff_exists.mp
    (List.find?_isSome.mpr ⟨mappedEdge f m, hlink, samePair_self _⟩)
  by_cases hcolumns : OtherColumns e (mappedEdge f m)
  · exact .inr (.inl ⟨e, he, hcolumns⟩)
  have hpair : samePair (mappedEdge f m) e = true := List.find?_some he
  have hkept : e ∈ treeEdges (join.edges ++ join.links) := by
    rw [← find?_treeEdges hother] at he
    exact List.mem_of_find?_eq_some he
  by_cases hover : ∃ s ∈ stepsFrom (join.edges ++ join.links) join.base, IsOver s e
  · obtain ⟨s, hs, hse⟩ := hover
    left
    have hequates : p.statement.Equates (ends e).1 (ends e).2 := by
      rw [facts_ok hp]
      exact equates_of_over hs hse
    exact equates_of_same_columns hequates hcolumns
  · have hends : e.table ∈ reachable (join.edges ++ join.links) join.base ∧
        e.factTable ∈ reachable (join.edges ++ join.links) join.base := by
      rcases samePair_iff.mp hpair with ⟨ht, hf'⟩ | ⟨ht, hf'⟩
      · exact ⟨ht ▸ hjoined, hf' ▸ hfact⟩
      · exact ⟨hf' ▸ hfact, ht ▸ hjoined⟩
    exact .inr (.inr (((leftOut_iff hkept hends.1 hends.2).mpr hover).of_samePair hpair))

/-- The region of a sale, mapped from both tables of facts. -/
def salesMappings : List Mapping :=
  [⟨none, 1, 1, "regions", "region_id", "id"⟩, ⟨none, 2, 1, "regions", "region_id", "id"⟩]

/-- The mapping of the second fact reaches the statement: no other columns are joined, and the
tree has a step over its edge. -/
theorem mapping_honoured_sales :
    ∃ p, Join.resolve salesFacts [⟨1, 1, "Region", "regions", "name"⟩] salesMappings (some []) =
        .ok salesJoin ∧
      facts salesFacts salesJoin [1] [] none = .ok p ∧
      (p.statement.Equates ("regions", "id") ("returns", "region_id") ∨
        (∃ e, (salesJoin.edges ++ salesJoin.links).find?
            (samePair ⟨"regions", "id", "returns", "region_id"⟩) = some e ∧
          OtherColumns e ⟨"regions", "id", "returns", "region_id"⟩) ∨
        LeftOut (salesJoin.edges ++ salesJoin.links) salesJoin.base
          ⟨"regions", "id", "returns", "region_id"⟩) := by
  have hresolve : Join.resolve salesFacts [⟨1, 1, "Region", "regions", "name"⟩] salesMappings
      (some []) = .ok salesJoin := by rfl
  refine ⟨_, hresolve, rfl, ?_⟩
  exact mapping_honoured salesFacts _ salesMappings (some []) salesJoin [1] [] none _ hresolve rfl
    ⟨2, 1, "Refunds", "returns", "cost", .sum⟩ (by simp [salesFacts])
    (List.mem_cons_of_mem _ (List.mem_cons_self ..)) _ (List.mem_cons_self ..)
    ⟨none, 2, 1, "regions", "region_id", "id"⟩ (by rfl) (by decide)

/-- Both exceptions occur, without a warning: of two dates in one table the second is not
joined on its own column, and of three tables in a circle one pair is not joined. -/
theorem mapping_displaced :
    (∃ join p,
      Join.resolve [⟨1, 1, "Revenue", "orders", "amount", .sum⟩]
        [⟨1, 1, "Order day", "dates", "day"⟩, ⟨2, 1, "Ship month", "dates", "month"⟩]
        [⟨none, 1, 1, "dates", "order_date_id", "id"⟩,
          ⟨none, 1, 2, "dates", "ship_date_id", "id"⟩] (some []) = .ok join ∧
      facts [⟨1, 1, "Revenue", "orders", "amount", .sum⟩] join [1, 2] [] none = .ok p ∧
      p.measures = ["Revenue"] ∧ p.dimensions = ["Order day", "Ship month"] ∧
      p.warnings = [] ∧
      ¬ p.statement.Equates ("dates", "id") ("orders", "ship_date_id")) ∧
    ∃ join p,
      Join.resolve
        [⟨1, 1, "Revenue", "orders", "amount", .sum⟩, ⟨2, 1, "Freight", "shipments", "cost", .sum⟩]
        [⟨1, 1, "Carrier", "carriers", "name"⟩, ⟨2, 1, "Status", "shipments", "status"⟩]
        [⟨none, 1, 1, "carriers", "carrier_id", "id"⟩,
          ⟨none, 2, 1, "carriers", "carrier_id", "id"⟩,
          ⟨none, 1, 2, "shipments", "id", "order_id"⟩] (some []) = .ok join ∧
      facts
        [⟨1, 1, "Revenue", "orders", "amount", .sum⟩, ⟨2, 1, "Freight", "shipments", "cost", .sum⟩]
        join [1, 2] [] none = .ok p ∧
      p.measures = ["Revenue", "Freight"] ∧ p.dimensions = ["Carrier", "Status"] ∧
      p.warnings = [] ∧
      ¬ p.statement.Equates ("carriers", "id") ("shipments", "carrier_id") := by
  refine ⟨⟨⟨"orders", [⟨"dates", "id", "orders", "order_date_id"⟩],
      [⟨"dates", "id", "orders", "order_date_id"⟩, ⟨"dates", "id", "orders", "ship_date_id"⟩],
      [⟨⟨1, 1, "Order day", "dates", "day"⟩, "dates", "day", [1]⟩,
        ⟨⟨2, 1, "Ship month", "dates", "month"⟩, "dates", "month", [1]⟩], [], []⟩,
      _, rfl, rfl, rfl, rfl, rfl, ?_⟩,
    ⟨"orders", [⟨"carriers", "id", "orders", "carrier_id"⟩,
        ⟨"shipments", "order_id", "orders", "id"⟩],
      [⟨"carriers", "id", "orders", "carrier_id"⟩, ⟨"carriers", "id", "shipments", "carrier_id"⟩,
        ⟨"shipments", "order_id", "orders", "id"⟩],
      [⟨⟨1, 1, "Carrier", "carriers", "name"⟩, "carriers", "name", [1, 2]⟩,
        ⟨⟨2, 1, "Status", "shipments", "status"⟩, "shipments", "status", [1, 2]⟩], [], []⟩,
    _, rfl, rfl, rfl, rfl, rfl, ?_⟩
  · intro h
    exact absurd (h.same_class (· == ("orders", "ship_date_id")) (by decide)) (by decide)
  · intro h
    exact absurd (h.same_class (· == ("shipments", "carrier_id")) (by decide)) (by decide)

end MetricLayer.Plan
