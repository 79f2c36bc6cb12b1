import Mathlib.Order.WellFounded
import MetricLayer.Proofs.Join.Spanning

/-!
# The join order is breadth first

The distance of a table from the base table is the least number of edges that lead to it. Each
table is joined at its distance, the near ones before the far ones, on the columns of the first
edge listed between it and its parent. The argument is the usual one for a queue: the tables in
it are in the order of their distances, which differ by one at most, and a table that is not
seen yet is farther away than the first of them.
-/
namespace MetricLayer.Join

/-- A chain of `n` edges that lead from the base table to another table. An edge from a table
to itself leads nowhere. -/
inductive Walk (edges : List JoinEdge) (base : String) : ℕ → String → Prop
  | here : Walk edges base 0 base
  | step {n : ℕ} {t u : String} (walk : Walk edges base n t) (apart : t ≠ u)
      (edge : Touches edges t u) : Walk edges base (n + 1) u

/-- The length of the shortest chains of edges between two tables. -/
structure IsDistance (edges : List JoinEdge) (base t : String) (n : ℕ) : Prop where
  walk : Walk edges base n t
  least : ∀ m, Walk edges base m t → n ≤ m

/-! ### Chains of edges -/

lemma Walk.linked {edges : List JoinEdge} {base t : String} {n : ℕ} (h : Walk edges base n t) :
    Linked edges base t := by
  induction h with
  | here => exact .refl
  | step _ _ edge ih => exact ih.tail edge

lemma Linked.exists_walk {edges : List JoinEdge} {base t : String} (h : Linked edges base t) :
    ∃ n, Walk edges base n t := by
  induction h with
  | refl => exact ⟨0, .here⟩
  | @tail u v _ edge ih =>
    obtain ⟨n, hn⟩ := ih
    by_cases hne : u = v
    · exact ⟨n, hne ▸ hn⟩
    · exact ⟨n + 1, .step hn hne edge⟩

/-- Tables are linked if some chain of edges leads from one to the other. -/
theorem linked_iff_walk {edges : List JoinEdge} {base t : String} :
    Linked edges base t ↔ ∃ n, Walk edges base n t :=
  ⟨Linked.exists_walk, fun ⟨_, hn⟩ => hn.linked⟩

/-- Edges that do not count shorten no chain. -/
lemma walk_treeEdges {edges : List JoinEdge} {base t : String} {n : ℕ} :
    Walk (treeEdges edges) base n t ↔ Walk edges base n t := by
  constructor <;> intro h
  · induction h with
    | here => exact .here
    | step _ apart edge ih => exact .step ih apart ((touches_treeEdges apart).mp edge)
  · induction h with
    | here => exact .here
    | step _ apart edge ih => exact .step ih apart ((touches_treeEdges apart).mpr edge)

lemma isDistance_treeEdges {edges : List JoinEdge} {base t : String} {n : ℕ} :
    IsDistance (treeEdges edges) base t n ↔ IsDistance edges base t n := by
  constructor
  · exact fun h => ⟨walk_treeEdges.mp h.walk, fun m hm => h.least m (walk_treeEdges.mpr hm)⟩
  · exact fun h => ⟨walk_treeEdges.mpr h.walk, fun m hm => h.least m (walk_treeEdges.mp hm)⟩

lemma Linked.exists_isDistance {edges : List JoinEdge} {base t : String}
    (h : Linked edges base t) : ∃ n, IsDistance edges base t n := by
  obtain ⟨n, hn, hleast⟩ := WellFounded.has_min (wellFounded_lt (α := ℕ))
    {n | Walk edges base n t} h.exists_walk
  exact ⟨n, hn, fun m hm => not_lt.mp (hleast m hm)⟩

/-- The distances of all tables that are linked to the base table. -/
lemma exists_distances (edges : List JoinEdge) (base : String) :
    ∃ depth : String → ℕ, ∀ t, Linked edges base t → IsDistance edges base t (depth t) := by
  have heach : ∀ t, ∃ n, Linked edges base t → IsDistance edges base t n := by
    intro t
    by_cases ht : Linked edges base t
    · obtain ⟨n, hn⟩ := ht.exists_isDistance
      exact ⟨n, fun _ => hn⟩
    · exact ⟨0, fun h => absurd h ht⟩
  choose depth hdepth using heach
  exact ⟨depth, hdepth⟩

/-! ### The search by distance -/

/-- The search between two visits. -/
structure Searching (kept : List JoinEdge) (base : String) (depth : String → ℕ)
    (queue seen : List String) : Prop where
  /-- The search started from the base table. -/
  started : base ∈ seen
  /-- What is seen is linked to it. -/
  linked : ∀ t ∈ seen, Linked kept base t
  queued : ∀ t ∈ queue, t ∈ seen
  /-- The tables seen earlier than those in the queue have had their turn. -/
  turned : ∀ s ∈ seen, s ∉ queue → ∀ t, Touches kept s t → t ∈ seen
  /-- The queue is in the order of distances. -/
  ascending : queue.Pairwise fun s t => depth s ≤ depth t
  /-- The distances in the queue differ by one at most. -/
  narrow : ∀ s ∈ queue, ∀ t ∈ queue, depth t ≤ depth s + 1

section

variable {kept : List JoinEdge} {base : String} {depth : String → ℕ} {queue seen : List String}
  {parent : String} (hdepth : ∀ t, Linked kept base t → IsDistance kept base t (depth t))
include hdepth

/-- A chain of edges that leads to a table that is not seen yet leaves the seen tables through
the queue. -/
lemma Searching.lt_of_walk (h : Searching kept base depth queue seen) {n : ℕ} {t : String}
    (hwalk : Walk kept base n t) (ht : t ∉ seen) : ∃ s ∈ queue, depth s < n := by
  induction hwalk with
  | here => exact absurd h.started ht
  | @step n t u hwalk _ hedge ih =>
    by_cases hseen : t ∈ seen
    · have hqueue : t ∈ queue := by
        by_contra hqueue
        exact ht (h.turned t hseen hqueue u hedge)
      have hle := (hdepth t hwalk.linked).least n hwalk
      exact ⟨t, hqueue, by omega⟩
    · obtain ⟨s, hs, hlt⟩ := ih hseen
      exact ⟨s, hs, by omega⟩

/-- The tables that a visit finds are one step farther away than their parent. -/
lemma Searching.depth_found (h : Searching kept base depth (parent :: queue) seen)
    {s : JoinStep} (hs : s ∈ stepsOut kept seen parent) :
    Linked kept base s.table ∧ s.parent = parent ∧ depth s.table = depth parent + 1 := by
  obtain ⟨⟨e, he, hse⟩, hnew⟩ := mem_stepsOut.mp hs
  obtain ⟨hover, hparent⟩ := stepOver_eq_some hse
  have hedge : Touches kept parent s.table := hparent ▸ hover.touches he
  have hlinked : Linked kept base parent := h.linked parent (h.queued parent List.mem_cons_self)
  have hne : parent ≠ s.table := fun heq =>
    hnew (heq ▸ h.queued parent List.mem_cons_self)
  have hfar := hdepth s.table (hlinked.tail hedge)
  have hle := hfar.least _ (.step (hdepth parent hlinked).walk hne hedge)
  obtain ⟨t, ht, hlt⟩ := h.lt_of_walk hdepth hfar.walk hnew
  have hfirst : depth parent ≤ depth t := by
    rcases List.mem_cons.mp ht with rfl | ht
    · exact le_rfl
    · exact List.rel_of_pairwise_cons h.ascending ht
  exact ⟨hlinked.tail hedge, hparent, by omega⟩

/-- A visit keeps the order of the search. -/
lemma Searching.visit (h : Searching kept base depth (parent :: queue) seen) :
    Searching kept base depth (queue ++ (stepsOut kept seen parent).map (·.table))
      (seen ++ (stepsOut kept seen parent).map (·.table)) := by
  have hfound : ∀ t ∈ (stepsOut kept seen parent).map (·.table),
      Linked kept base t ∧ depth t = depth parent + 1 := by
    intro t ht
    obtain ⟨s, hs, rfl⟩ := List.mem_map.mp ht
    have hs := h.depth_found hdepth hs
    exact ⟨hs.1, hs.2.2⟩
  have hqueue : ∀ t ∈ queue, depth parent ≤ depth t ∧ depth t ≤ depth parent + 1 := fun t ht =>
    ⟨List.rel_of_pairwise_cons h.ascending ht,
      h.narrow parent List.mem_cons_self t (List.mem_cons_of_mem _ ht)⟩
  refine ⟨List.mem_append_left _ h.started, ?_, ?_, turns_stepsOut h.turned, ?_, ?_⟩
  · intro t ht
    rcases List.mem_append.mp ht with ht | ht
    · exact h.linked t ht
    · exact (hfound t ht).1
  · intro t ht
    rcases List.mem_append.mp ht with ht | ht
    · exact List.mem_append_left _ (h.queued t (List.mem_cons_of_mem _ ht))
    · exact List.mem_append_right _ ht
  · refine List.pairwise_append.mpr ⟨h.ascending.of_cons, ?_, ?_⟩
    · refine List.pairwise_of_forall_mem_list fun s hs t ht => ?_
      rw [(hfound s hs).2, (hfound t ht).2]
    · intro s hs t ht
      rw [(hfound t ht).2]
      exact (hqueue s hs).2
  · have hnear : ∀ t ∈ queue ++ (stepsOut kept seen parent).map (·.table),
        depth parent ≤ depth t ∧ depth t ≤ depth parent + 1 := by
      intro t ht
      rcases List.mem_append.mp ht with ht | ht
      · exact hqueue t ht
      · rw [(hfound t ht).2]
        omega
    intro s hs t ht
    have hlow := (hnear s hs).1
    have hhigh := (hnear t ht).2
    omega

/-- Every step of the search goes one edge farther away than its parent, and farther than any
bound for the queue; the steps are in the order of distances. -/
theorem breadthFirst_layers (fuel : ℕ) (h : Searching kept base depth queue seen) :
    (∀ s ∈ breadthFirst kept fuel queue seen, depth s.table = depth s.parent + 1) ∧
      (∀ n, (∀ t ∈ queue, n ≤ depth t) →
        ∀ s ∈ breadthFirst kept fuel queue seen, n < depth s.table) ∧
      (breadthFirst kept fuel queue seen).Pairwise fun s t => depth s.table ≤ depth t.table := by
  induction fuel generalizing queue seen with
  | zero => simp [breadthFirst]
  | succ fuel ih =>
    cases queue with
    | nil => simp [breadthFirst]
    | cons parent queue =>
      obtain ⟨hstep, hbound, hsorted⟩ := ih (h.visit hdepth)
      have hfound := fun s hs => h.depth_found hdepth (s := s) hs
      rw [breadthFirst_cons]
      refine ⟨?_, ?_, List.pairwise_append.mpr ⟨?_, hsorted, ?_⟩⟩
      · intro s hs
        rcases List.mem_append.mp hs with hs | hs
        · rw [(hfound s hs).2.1]
          exact (hfound s hs).2.2
        · exact hstep s hs
      · intro n hn s hs
        have hparent := hn parent List.mem_cons_self
        rcases List.mem_append.mp hs with hs | hs
        · rw [(hfound s hs).2.2]
          omega
        · refine hbound n (fun t ht => ?_) s hs
          rcases List.mem_append.mp ht with ht | ht
          · exact hn t (List.mem_cons_of_mem _ ht)
          · obtain ⟨r, hr, rfl⟩ := List.mem_map.mp ht
            rw [(hfound r hr).2.2]
            omega
      · refine List.pairwise_of_forall_mem_list fun s hs t ht => ?_
        rw [(hfound s hs).2.2, (hfound t ht).2.2]
      · -- the later steps start from tables at least as far away as this parent
        intro s hs t ht
        rw [(hfound s hs).2.2]
        refine hbound (depth parent) (fun u hu => ?_) t ht
        rcases List.mem_append.mp hu with hu | hu
        · exact List.rel_of_pairwise_cons h.ascending hu
        · obtain ⟨r, hr, rfl⟩ := List.mem_map.mp hu
          rw [(hfound r hr).2.2]
          omega

end

/-! ### The columns of a step -/

/-- A step over an edge that counts is over the first edge listed between its tables. -/
lemma first_edge_of_over {edges : List JoinEdge} {s : JoinStep} {e : JoinEdge}
    (he : e ∈ treeEdges edges) (hover : IsOver s e) :
    ∃ before after, edges = before ++ e :: after ∧ ¬ Touches before s.parent s.table := by
  have hk := treeEdges_simple edges
  obtain ⟨f, hf⟩ := Option.isSome_iff_exists.mp
    (List.find?_isSome.mpr ⟨e, he, samePair_self e⟩)
  obtain rfl : e = f :=
    hk.eq_of_samePair he (List.mem_of_find?_eq_some hf) (List.find?_some hf)
  rw [find?_treeEdges (hk.loopless e he), List.find?_eq_some_iff_append] at hf
  obtain ⟨_, before, after, hedges, hbefore⟩ := hf
  refine ⟨before, after, hedges, fun ⟨g, hg, htouch⟩ => ?_⟩
  have hsame : samePair e g = true := by
    rw [samePair_iff]
    rcases hover with rfl | rfl <;> rcases htouch with ⟨h1, h2⟩ | ⟨h1, h2⟩ <;> simp_all
  simpa [hsame] using hbefore g hg

/-! ### The join order -/

/-- The steps join the tables around a base table breadth first. -/
structure BreadthFirstTree (edges : List JoinEdge) (base : String) (steps : List JoinStep) :
    Prop where
  /-- No table is joined twice. -/
  once : (steps.map (·.table)).Nodup
  /-- The tables that are joined are those that edges lead to, apart from the base table. -/
  tables : ∀ t, t ∈ steps.map (·.table) ↔ t ≠ base ∧ ∃ n, Walk edges base n t
  /-- A table is joined onto the base table or onto one that is joined before. -/
  parents : ∀ before s after, steps = before ++ s :: after →
    s.parent = base ∨ s.parent ∈ before.map (·.table)
  /-- A table is joined on the columns of the first edge listed between it and its parent. -/
  columns : ∀ s ∈ steps, ∃ before e after, edges = before ++ e :: after ∧ IsOver s e ∧
    ¬ Touches before s.parent s.table
  /-- A table is joined at its distance from the base table, the near ones first. -/
  layers : ∃ depth : String → ℕ,
    (∀ t, t = base ∨ t ∈ steps.map (·.table) → IsDistance edges base t (depth t)) ∧
      (∀ s ∈ steps, depth s.table = depth s.parent + 1) ∧
      steps.Pairwise fun s t => depth s.table ≤ depth t.table

lemma searching_base {kept : List JoinEdge} {base : String} (depth : String → ℕ) :
    Searching kept base depth [base] [base] where
  started := List.mem_cons_self
  linked t ht := by
    rw [List.mem_singleton.mp ht]
    exact .refl
  queued _ ht := ht
  turned _ hs hsq := absurd hs hsq
  ascending := List.pairwise_singleton _ _
  narrow s hs t ht := by
    rw [List.mem_singleton.mp hs, List.mem_singleton.mp ht]
    omega

lemma mem_joined_iff {edges : List JoinEdge} {base t : String} :
    t ∈ (stepsFrom edges base).map (·.table) ↔ t ≠ base ∧ ∃ n, Walk edges base n t := by
  have hnodup : base ∉ (stepsFrom edges base).map (·.table) :=
    (List.nodup_cons.mp (reachable_nodup edges base)).1
  rw [← linked_iff_walk, ← mem_reachable, reachable, List.mem_cons]
  constructor
  · intro ht
    exact ⟨fun heq => hnodup (heq ▸ ht), .inr ht⟩
  · rintro ⟨hne, heq | ht⟩
    · exact absurd heq hne
    · exact ht

theorem stepsFrom_layers (edges : List JoinEdge) (base : String) :
    ∃ depth : String → ℕ, (∀ t ∈ reachable edges base, IsDistance edges base t (depth t)) ∧
      (∀ s ∈ stepsFrom edges base, depth s.table = depth s.parent + 1) ∧
      (stepsFrom edges base).Pairwise fun s t => depth s.table ≤ depth t.table := by
  obtain ⟨depth, hdepth⟩ := exists_distances (treeEdges edges) base
  obtain ⟨hstep, _, hsorted⟩ := breadthFirst_layers hdepth
    (2 * (treeEdges edges).length + 1) (searching_base depth)
  refine ⟨depth, fun t ht => ?_, hstep, hsorted⟩
  exact isDistance_treeEdges.mp (hdepth t (linked_treeEdges.mpr (mem_reachable.mp ht)))

/-- The join order is a breadth-first tree of what is reachable from the base table, and the
search ends by itself: more fuel adds nothing. -/
theorem stepsFrom_breadthFirst (edges : List JoinEdge) (base : String) :
    BreadthFirstTree edges base (stepsFrom edges base) ∧
      (∀ t, t ∈ reachable edges base ↔ t = base ∨ t ∈ (stepsFrom edges base).map (·.table)) ∧
      (∀ t, t ∈ reachable edges base ↔ ∃ n, Walk edges base n t) ∧
      ∀ more, breadthFirst (treeEdges edges) (2 * (treeEdges edges).length + 1 + more)
        [base] [base] = stepsFrom edges base := by
  refine ⟨⟨?_, fun t => mem_joined_iff, ?_, ?_, ?_⟩, fun t => List.mem_cons, ?_, ?_⟩
  · exact (List.nodup_cons.mp (reachable_nodup edges base)).2
  · intro before s after hsteps
    have hgrows := stepsFrom_grows edges base
    rw [hsteps] at hgrows
    simpa using hgrows.parent_mem
  · intro s hs
    obtain ⟨e, he, hover⟩ := stepsFrom_over s hs
    obtain ⟨before, after, hedges, hfirst⟩ := first_edge_of_over he hover
    exact ⟨before, e, after, hedges, hover, hfirst⟩
  · obtain ⟨depth, hdepth, hstep, hsorted⟩ := stepsFrom_layers edges base
    exact ⟨depth, fun t ht => hdepth t (List.mem_cons.mpr ht), hstep, hsorted⟩
  · exact fun t => mem_reachable.trans linked_iff_walk
  · intro more
    have hcard := card_unseen_le (treeEdges edges) [base]
    exact breadthFirst_of_le (treeEdges_simple edges) [base] [base]
      (by simp only [List.length_singleton]; omega) (by omega)

end MetricLayer.Join
