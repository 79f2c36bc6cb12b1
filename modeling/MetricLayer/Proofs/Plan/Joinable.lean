import MetricLayer.Proofs.Plan.Kept

/-!
# Dimensions that can be joined

A dimension is read where the first fact that it can be joined to reads it. If that fact is on a
table linked to the base table, the plan shows the dimension and applies its filters; otherwise
the dimension is left out with a warning, even if a later fact could be joined to it.
-/
namespace MetricLayer.Plan
open Sql Join

/-- A dimension is read from a table that is linked to every fact that it is joined to there. -/
lemma linked_display {fs : List Fact} {dimensions : List Dimension} {mappings : List Mapping}
    {columns : Option Columns} {join : JoinPlan}
    (h : resolve fs dimensions mappings columns = .ok join) {f : Fact} (hf : f ∈ fs)
    {d : Dimension} (hd : d ∈ dimensions) {t c : String}
    (hpair : (pair mappings (columns.getD []) f d).display? = some (t, c)) :
    Linked (join.edges ++ join.links) t f.table := by
  rcases pair_cases mappings (columns.getD []) f d with ⟨w, hw⟩ | hsame | ⟨e, htable, he⟩
  · simp [hw, Outcome.display?] at hpair
  · rw [hsame] at hpair
    obtain ⟨rfl, _⟩ := Prod.mk.inj (Option.some.inj hpair)
    exact .refl
  · rw [he] at hpair
    obtain ⟨rfl, _⟩ := Prod.mk.inj (Option.some.inj hpair)
    have hlink : e ∈ join.links := mem_links_of_pair h hf hd (by rw [he]; rfl)
    rw [← htable]
    exact .of_edge (List.mem_append_right _ hlink)

/-- The plan's record of a dimension that some fact can be joined to. -/
lemma mem_dimensions_of_first {fs : List Fact} {dimensions : List Dimension}
    {mappings : List Mapping} {columns : Option Columns} {join : JoinPlan}
    (h : resolve fs dimensions mappings columns = .ok join) {d : Dimension}
    (hd : d ∈ dimensions) {f : Fact} {table : String}
    (hfirst : FirstJoined fs mappings (columns.getD []) d f table) :
    ∃ ids, ⟨d, table, d.column, ids⟩ ∈ join.dimensions := by
  obtain ⟨ids, hids⟩ := resolved?_of_first hfirst
  exact ⟨ids, (mem_dimensions_iff h).mpr ⟨d, hd, hids⟩⟩

/-- A plan shows a dimension, and every filter on it that names a value is one of the
conditions. -/
structure Keeps (p : QueryPlan) (d : Dimension) (table : String) (filters : List Filter) :
    Prop where
  shows : Shows p.statement (.column d.column (some table))
  filtered : ∃ es, p.statement.condition = conjunction es ∧
    ∀ f ∈ filters, f.dimensionId = d.id → isEmptyList f.value = false →
      ∃ e ∈ es, TestsFilter (.column d.column (some table)) f e

/-- A plan leaves a dimension out with a warning, and ignores the filters on it. -/
structure LeavesOut (p : QueryPlan) (base : String) (r : ResolvedDimension)
    (filters : List Filter) : Prop where
  warned : unreachableWarning base r ∈ p.warnings
  ignored : ∀ f ∈ filters, f.dimensionId = r.dimension.id →
    notJoinableWarning f ∈ p.warnings

section
variable {fs : List Fact} {join : JoinPlan} {selected : List Int} {filters : List Filter}
  {aggregation : Option Aggregation}

/-- A selected dimension that is read from a linked table is kept. -/
lemma keeps_of_reaches (hnodup : (join.dimensions.map (·.dimension.id)).Nodup) {d : Dimension}
    {table : String} {ids : List Int} (hmem : ⟨d, table, d.column, ids⟩ ∈ join.dimensions)
    (hreach : (Frame.of join).reaches table = true) (hselected : d.id ∈ selected) :
    ∃ p, facts fs join selected filters aggregation = .ok p ∧ Keeps p d table filters := by
  have hkept : (Frame.of join).dimension? d.id = some ⟨d, table, d.column, ids⟩ :=
    (dimension?_iff hnodup).mpr ⟨hmem, hreach, rfl⟩
  have hchosen : ⟨d, table, d.column, ids⟩ ∈ (Frame.of join).chosen selected :=
    mem_chosen.mpr ⟨d.id, hselected, hkept⟩
  refine ⟨_, facts_eq_ok (List.ne_nil_of_mem hchosen), shows_of_chosen hchosen, _, rfl, ?_⟩
  intro g hg hgd hvalue
  rw [← hgd] at hkept
  have htarget : filterTarget (Frame.of join) g = .ok ⟨d, table, d.column, ids⟩ := by
    simp [filterTarget_eq, hkept, hvalue]
  exact exists_condition hg htarget

/-- A dimension that is read from a table without a link is left out. -/
lemma leavesOut_of_lost (hnodup : (join.dimensions.map (·.dimension.id)).Nodup)
    {r : ResolvedDimension} (hmem : r ∈ join.dimensions)
    (hlost : (Frame.of join).reaches r.table = false) {p : QueryPlan}
    (hp : facts fs join selected filters aggregation = .ok p) :
    LeavesOut p join.base r filters := by
  constructor
  · rw [facts_ok hp]
    exact List.mem_append_left _ (List.mem_append_right _ (mem_dimensionWarnings hmem hlost))
  · intro g hg hgd
    have hnone : (Frame.of join).dimension? g.dimensionId = none :=
      dimension?_eq_none hnodup hmem hlost hgd.symm
    rw [facts_ok hp]
    refine List.mem_append_right _ (mem_ignored_of hg ?_)
    rw [filterTarget_eq, hnone]

end

/-- A selected dimension that can be joined is kept exactly if the first fact that it can be
joined to is on a table linked to the base table. -/
theorem joinable_kept (fs : List Fact) (dimensions : List Dimension) (mappings : List Mapping)
    (columns : Option Columns) (join : JoinPlan) (selected : List Int) (filters : List Filter)
    (aggregation : Option Aggregation)
    (hjoin : resolve fs dimensions mappings columns = .ok join)
    (hids : (dimensions.map (·.id)).Nodup) (d : Dimension) (hd : d ∈ dimensions)
    (hselected : d.id ∈ selected) (f : Fact) (table : String)
    (hfirst : FirstJoined fs mappings (columns.getD []) d f table) :
    (Linked (join.edges ++ join.links) join.base f.table →
      ∃ p, facts fs join selected filters aggregation = .ok p ∧ Keeps p d table filters) ∧
    (¬ Linked (join.edges ++ join.links) join.base f.table →
      ∀ p, facts fs join selected filters aggregation = .ok p →
        ∃ r ∈ join.dimensions, r.dimension = d ∧ LeavesOut p join.base r filters) := by
  obtain ⟨before, after, hfs, _⟩ := hfirst.first
  obtain ⟨ids, hmem⟩ := mem_dimensions_of_first hjoin hd hfirst
  have hnodup := dimension_ids_nodup hjoin hids
  -- The table it is read from is linked to the base table exactly if the table of the fact is.
  have hdisplay : Linked (join.edges ++ join.links) table f.table :=
    linked_display hjoin (by simp [hfs]) hd hfirst.joined
  constructor
  · intro hlinked
    have hreach : (Frame.of join).reaches table = true :=
      (reaches_iff join table).mpr (hlinked.trans hdisplay.symm)
    exact keeps_of_reaches hnodup hmem hreach hselected
  · intro hnot p hp
    have hlost : (Frame.of join).reaches table = false := by
      rw [Bool.eq_false_iff]
      intro hreach
      exact hnot (((reaches_iff join table).mp hreach).trans hdisplay)
    exact ⟨_, hmem, rfl, leavesOut_of_lost hnodup hmem hlost hp⟩

/-- Facts on two tables, of which only the first and the last are on one table. -/
def trafficFacts : List Fact :=
  [⟨1, 1, "Revenue", "orders", "amount", .sum⟩, ⟨2, 1, "Visits", "visits", "id", .count⟩,
    ⟨3, 1, "Tax", "orders", "tax", .sum⟩]

/-- The region is mapped from the last fact. -/
theorem joinable_kept_traffic :
    ∃ join, resolve trafficFacts [⟨1, 1, "Region", "regions", "name"⟩]
        [⟨none, 3, 1, "regions", "region_id", "id"⟩] (some []) = .ok join ∧
      ∃ p, facts trafficFacts join [1] [⟨1, .str "EU"⟩] none = .ok p ∧
        Keeps p ⟨1, 1, "Region", "regions", "name"⟩ "regions" [⟨1, .str "EU"⟩] := by
  refine ⟨_, rfl, ?_⟩
  refine (joinable_kept trafficFacts [⟨1, 1, "Region", "regions", "name"⟩]
    [⟨none, 3, 1, "regions", "region_id", "id"⟩] (some []) _ [1] [⟨1, .str "EU"⟩] none rfl
    (by decide) ⟨1, 1, "Region", "regions", "name"⟩ (by decide) (by decide)
    ⟨3, 1, "Tax", "orders", "tax", .sum⟩ "regions" ⟨by decide, ?_⟩).1 .refl
  exact ⟨[⟨1, 1, "Revenue", "orders", "amount", .sum⟩, ⟨2, 1, "Visits", "visits", "id", .count⟩],
    [], rfl, by decide⟩

/-- A dimension that a fact of the base table is mapped to is lost, and the request fails, if a
fact on a table that is not linked comes first. -/
theorem joinable_lost :
    ∃ join, resolve trafficFacts [⟨1, 1, "Region", "regions", "name"⟩]
        [⟨none, 2, 1, "visit_regions", "region_id", "id"⟩,
          ⟨none, 3, 1, "regions", "region_id", "id"⟩] (some []) = .ok join ∧
      (⟨3, 1, "Tax", "orders", "tax", .sum⟩ : Fact) ∈ trafficFacts ∧
      Linked (join.edges ++ join.links) join.base "orders" ∧
      mappingOf [⟨none, 2, 1, "visit_regions", "region_id", "id"⟩,
        ⟨none, 3, 1, "regions", "region_id", "id"⟩] 3 1 =
          some ⟨none, 3, 1, "regions", "region_id", "id"⟩ ∧
      facts trafficFacts join [1] [⟨1, .str "EU"⟩] none =
        .error (.failure (.noResolvableDimensions ["Region"]
          ["Fact 'Visits' dropped: table 'visits' has no join path to 'orders'",
            "Dimension 'Region' dropped: table 'visit_regions' has no join path to 'orders'"])) :=
  ⟨_, rfl, by decide, .refl, by decide, by rfl⟩

end MetricLayer.Plan
