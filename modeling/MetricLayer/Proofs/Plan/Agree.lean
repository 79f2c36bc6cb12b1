import MetricLayer.Proofs.Fault
import MetricLayer.Proofs.Plan.Kept

/-!
# Plans that agree where a query looks

What is planned depends on the join tree and on the dimensions that the query names. If two
joins agree on these, a query that is planned over one is planned alike over the other, up to
its warnings.
-/
namespace MetricLayer.Plan
open Join

/-- Two joins with the same tree and the same dimensions under given ids. -/
structure AgreeOn (ids : List Int) (join join' : JoinPlan) : Prop where
  base : join'.base = join.base
  edges : join'.edges = join.edges
  links : join'.links = join.links
  dimensions : ∀ r, r.dimension.id ∈ ids → (r ∈ join'.dimensions ↔ r ∈ join.dimensions)
  nodup : (join.dimensions.map (·.dimension.id)).Nodup
  nodup' : (join'.dimensions.map (·.dimension.id)).Nodup

namespace AgreeOn

variable {ids : List Int} {join join' : JoinPlan}

lemma tree (h : AgreeOn ids join join') :
    (Frame.of join').edges = (Frame.of join).edges ∧
      (Frame.of join').reaches = (Frame.of join).reaches := by
  have hedges : (Frame.of join').edges = (Frame.of join).edges := by
    simp only [Frame.of, h.edges, h.links]
  refine ⟨hedges, ?_⟩
  funext t
  simp only [Frame.reaches, Frame.of, h.base, h.edges, h.links]

lemma dimension? (h : AgreeOn ids join join') {id : Int} (hid : id ∈ ids) :
    (Frame.of join').dimension? id = (Frame.of join).dimension? id := by
  ext r
  rw [dimension?_iff h.nodup', dimension?_iff h.nodup, h.tree.2]
  constructor
  · rintro ⟨hr, hreach, rfl⟩
    exact ⟨(h.dimensions r hid).mp hr, hreach, rfl⟩
  · rintro ⟨hr, hreach, rfl⟩
    exact ⟨(h.dimensions r hid).mpr hr, hreach, rfl⟩

lemma chosen (h : AgreeOn ids join join') {selected : List Int} (hsel : selected ⊆ ids) :
    (Frame.of join').chosen selected = (Frame.of join).chosen selected :=
  List.filterMap_congr fun _ hid => h.dimension? (hsel (List.mem_eraseDups.mp hid))

lemma applied (h : AgreeOn ids join join') {filters : List Filter}
    (hfilters : ∀ f ∈ filters, f.dimensionId ∈ ids) :
    Plan.applied (Frame.of join') filters = Plan.applied (Frame.of join) filters := by
  refine List.filterMap_congr fun f hf => ?_
  rw [filterTarget_eq, filterTarget_eq, h.dimension? (hfilters f hf)]

/-- The same measures are planned alike, if the same filters apply. -/
theorem assemble (h : AgreeOn ids join join') {measures : List Measure} {selected : List Int}
    {filters filters' : List Filter} {warnings : List String} {p : QueryPlan}
    (hsel : selected ⊆ ids)
    (happlied : Plan.applied (Frame.of join') filters' = Plan.applied (Frame.of join) filters)
    (hp : Plan.assemble (Frame.of join) measures selected filters warnings = .ok p)
    (warnings' : List String) :
    ∃ ws, Plan.assemble (Frame.of join') measures selected filters' warnings' =
      .ok { p with warnings := ws } := by
  have hbase : (Frame.of join').join.base = (Frame.of join).join.base := h.base
  rw [assemble_eq] at hp ⊢
  rw [h.chosen hsel]
  split at hp
  · cases hp
  · rename_i hkept
    obtain rfl := Except.ok.inj hp
    rw [if_neg hkept]
    simp only [assembled, h.chosen hsel, h.tree.1, hbase, happlied]
    exact ⟨_, rfl⟩

theorem facts (h : AgreeOn ids join join') {fs : List Fact} {selected : List Int}
    {filters filters' : List Filter} {aggregation : Option Aggregation} {p : QueryPlan}
    (hsel : selected ⊆ ids)
    (happlied : Plan.applied (Frame.of join') filters' = Plan.applied (Frame.of join) filters)
    (hp : Plan.facts fs join selected filters aggregation = .ok p) :
    ∃ ws, Plan.facts fs join' selected filters' aggregation = .ok { p with warnings := ws } := by
  unfold Plan.facts at hp ⊢
  dsimp only at hp ⊢
  rw [h.tree.2]
  exact h.assemble hsel happlied hp _

theorem kpi (h : AgreeOn ids join join') {name : String} {e : Kpi.Expansion}
    {selected : List Int} {filters filters' : List Filter} {p : QueryPlan} (hsel : selected ⊆ ids)
    (happlied : Plan.applied (Frame.of join') filters' = Plan.applied (Frame.of join) filters)
    (hp : Plan.kpi name e join selected filters = .ok p) :
    ∃ ws, Plan.kpi name e join' selected filters' = .ok { p with warnings := ws } := by
  obtain ⟨plan, hplan, hp⟩ := bind_eq_ok hp
  obtain rfl := Except.ok.inj hp
  obtain ⟨ws, hws⟩ := h.assemble hsel happlied hplan
    (join'.warnings ++ (e.facts.filter fun f =>
      !(Frame.of join').reaches f.table).map (kpiWarning name join'.base))
  refine ⟨ws, ?_⟩
  unfold Plan.kpi
  simp only [hws]
  rfl

end AgreeOn

/-- A filter that names no value adds no condition. -/
lemma applied_emptyList {fr : Frame} {before after : List Filter} {f : Filter}
    (hf : isEmptyList f.value = true) :
    applied fr (before ++ f :: after) = applied fr (before ++ after) := by
  have hnone : applied fr [f] = [] := by
    cases hr : fr.dimension? f.dimensionId <;> simp [applied, filterTarget_eq, hr, hf]
  rw [← List.singleton_append]
  simp only [applied, List.filterMap_append] at hnone ⊢
  rw [hnone, List.nil_append]

end MetricLayer.Plan
