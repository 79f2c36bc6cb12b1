import Mathlib.Data.Finset.Card
import Mathlib.Data.List.Nodup
import Mathlib.Data.List.Pairwise
import Mathlib.Logic.Relation
import MetricLayer.Join.Tree

/-!
# The join order spans what is linked

Two tables are linked if a chain of edges leads from one to the other, in whatever direction
the edges are written. The tables joined to a base table are exactly those linked to it, each
is joined once, and each is joined onto the base table or one that was joined before. The
fuel of the search is proved to be enough.
-/
namespace MetricLayer.Join

/-- An edge between two tables, in either direction. -/
def Touches (edges : List JoinEdge) (s t : String) : Prop :=
  ∃ e ∈ edges, (e.table = s ∧ e.factTable = t) ∨ (e.table = t ∧ e.factTable = s)

/-- Tables with a chain of edges between them. -/
def Linked (edges : List JoinEdge) : String → String → Prop :=
  Relation.ReflTransGen (Touches edges)

lemma Touches.symm {edges : List JoinEdge} {s t : String} (h : Touches edges s t) :
    Touches edges t s := by
  obtain ⟨e, he, h⟩ := h
  exact ⟨e, he, h.symm⟩

lemma Linked.symm {edges : List JoinEdge} {s t : String} (h : Linked edges s t) :
    Linked edges t s := by
  induction h with
  | refl => exact .refl
  | tail _ hstep ih => exact .head hstep.symm ih

lemma Linked.mono {es fs : List JoinEdge} (hsub : ∀ e ∈ es, e ∈ fs) {s t : String}
    (h : Linked es s t) : Linked fs s t :=
  Relation.ReflTransGen.mono (fun _ _ ⟨e, he, h⟩ => ⟨e, hsub e he, h⟩) s t h

lemma Linked.of_edge {edges : List JoinEdge} {e : JoinEdge} (he : e ∈ edges) :
    Linked edges e.table e.factTable :=
  .single ⟨e, he, .inl ⟨rfl, rfl⟩⟩

/-! ### Edges that count -/

lemma samePair_iff {e f : JoinEdge} :
    samePair e f = true ↔ (e.table = f.table ∧ e.factTable = f.factTable) ∨
      (e.table = f.factTable ∧ e.factTable = f.table) := by
  simp [samePair]

@[simp] lemma samePair_self (e : JoinEdge) : samePair e e = true := by simp [samePair]

lemma samePair_comm (e f : JoinEdge) : samePair e f = samePair f e := by
  rw [Bool.eq_iff_iff, samePair_iff, samePair_iff]
  constructor <;> rintro (⟨h, h'⟩ | ⟨h, h'⟩) <;> simp [h, h']

lemma samePair_trans {e f g : JoinEdge} (hef : samePair e f = true)
    (hfg : samePair f g = true) : samePair e g = true := by
  rw [samePair_iff] at *
  rcases hef with ⟨h, h'⟩ | ⟨h, h'⟩ <;> rcases hfg with ⟨k, k'⟩ | ⟨k, k'⟩ <;> simp_all

/-- What one more edge adds to the edges that count. -/
lemma treeEdges_concat (edges : List JoinEdge) (e : JoinEdge) :
    treeEdges (edges ++ [e]) =
      if e.table == e.factTable || (treeEdges edges).any (samePair e) then treeEdges edges
      else treeEdges edges ++ [e] := by
  simp [treeEdges, List.foldl_append]

lemma mem_of_mem_treeEdges {edges : List JoinEdge} {e : JoinEdge} (h : e ∈ treeEdges edges) :
    e ∈ edges := by
  induction edges using List.reverseRecOn with
  | nil => simp [treeEdges] at h
  | append_singleton edges f ih =>
    rw [treeEdges_concat] at h
    split at h
    · exact List.mem_append_left _ (ih h)
    · rcases List.mem_append.mp h with h | h
      · exact List.mem_append_left _ (ih h)
      · exact List.mem_append_right _ h

/-- No edge that counts leads from a table to itself, and no two lead between the same
tables. -/
structure Simple (kept : List JoinEdge) : Prop where
  loopless : ∀ e ∈ kept, e.table ≠ e.factTable
  pairwise : kept.Pairwise fun e f => samePair e f = false

theorem treeEdges_simple (edges : List JoinEdge) : Simple (treeEdges edges) := by
  induction edges using List.reverseRecOn with
  | nil => exact ⟨by simp [treeEdges], by simp [treeEdges]⟩
  | append_singleton edges f ih =>
    rw [treeEdges_concat]
    split
    · exact ih
    · rename_i h
      simp only [Bool.or_eq_true, beq_iff_eq, List.any_eq_true, not_or, not_exists, not_and,
        Bool.not_eq_true] at h
      refine ⟨?_, ?_⟩
      · intro e he
        rcases List.mem_append.mp he with he | he
        · exact ih.loopless e he
        · rw [List.mem_singleton.mp he]
          exact h.1
      · rw [List.pairwise_append]
        refine ⟨ih.pairwise, List.pairwise_singleton _ _, ?_⟩
        intro e he g hg
        rw [List.mem_singleton.mp hg, samePair_comm]
        exact h.2 e he

lemma Simple.eq_of_samePair {kept : List JoinEdge} (hk : Simple kept) {e f : JoinEdge}
    (he : e ∈ kept) (hf : f ∈ kept) (h : samePair e f = true) : e = f := by
  have : Std.Symm fun e f : JoinEdge => samePair e f = false :=
    ⟨fun e f hef => by rwa [samePair_comm]⟩
  by_contra hne
  have hapart := hk.pairwise.forall he hf hne
  rw [h] at hapart
  cases hapart

/-- Among the edges that count, the one between two tables is the first one listed. -/
theorem find?_treeEdges {e : JoinEdge} (he : e.table ≠ e.factTable) (edges : List JoinEdge) :
    (treeEdges edges).find? (samePair e) = edges.find? (samePair e) := by
  induction edges using List.reverseRecOn with
  | nil => rfl
  | append_singleton edges f ih =>
    rw [treeEdges_concat]
    split
    · rename_i h
      rw [List.find?_append, ← ih]
      cases hef : samePair e f with
      | false => simp [hef]
      | true =>
        -- an earlier edge between the tables of `f` is one between those of `e` too
        have hloop : f.table ≠ f.factTable := by
          rcases samePair_iff.mp hef with ⟨h1, h2⟩ | ⟨h1, h2⟩
          · rwa [← h1, ← h2]
          · rw [← h1, ← h2]
            exact he.symm
        simp only [Bool.or_eq_true, beq_iff_eq, hloop, false_or, List.any_eq_true] at h
        obtain ⟨g, hg, hfg⟩ := h
        have hfound : ((treeEdges edges).find? (samePair e)).isSome :=
          List.find?_isSome.mpr ⟨g, hg, samePair_trans hef hfg⟩
        obtain ⟨k, hk⟩ := Option.isSome_iff_exists.mp hfound
        simp [hk]
    · rw [List.find?_append, List.find?_append, ih]

lemma touches_of_samePair {kept : List JoinEdge} {e f : JoinEdge} (hf : f ∈ kept)
    (h : samePair e f = true) : Touches kept e.table e.factTable := by
  rcases samePair_iff.mp h with ⟨h1, h2⟩ | ⟨h1, h2⟩
  · exact ⟨f, hf, .inl ⟨h1.symm, h2.symm⟩⟩
  · exact ⟨f, hf, .inr ⟨h2.symm, h1.symm⟩⟩

/-- Between different tables there is an edge that counts if there is an edge. -/
lemma touches_treeEdges {edges : List JoinEdge} {s t : String} (hne : s ≠ t) :
    Touches (treeEdges edges) s t ↔ Touches edges s t := by
  refine ⟨fun ⟨e, he, h⟩ => ⟨e, mem_of_mem_treeEdges he, h⟩, fun ⟨e, he, h⟩ => ?_⟩
  have hloop : e.table ≠ e.factTable := by
    rcases h with ⟨rfl, rfl⟩ | ⟨rfl, rfl⟩
    · exact hne
    · exact hne.symm
  have hfound : (edges.find? (samePair e)).isSome :=
    List.find?_isSome.mpr ⟨e, he, samePair_self e⟩
  obtain ⟨f, hf⟩ := Option.isSome_iff_exists.mp hfound
  rw [← find?_treeEdges hloop] at hf
  have htouches := touches_of_samePair (List.mem_of_find?_eq_some hf) (List.find?_some hf)
  rcases h with ⟨rfl, rfl⟩ | ⟨rfl, rfl⟩
  · exact htouches
  · exact htouches.symm

/-- Leaving out edges that do not count separates no tables. -/
theorem linked_treeEdges {edges : List JoinEdge} {s t : String} :
    Linked (treeEdges edges) s t ↔ Linked edges s t := by
  refine ⟨Linked.mono fun e => mem_of_mem_treeEdges, fun h => ?_⟩
  induction h with
  | refl => exact .refl
  | @tail u v _ hstep ih =>
    by_cases hne : u = v
    · rwa [← hne]
    · exact ih.tail ((touches_treeEdges hne).mpr hstep)

/-! ### Steps -/

/-- A step over an edge: it joins one of the tables of the edge onto the other, on the columns
of the edge. -/
def IsOver (s : JoinStep) (e : JoinEdge) : Prop :=
  s = ⟨e.factTable, e.factColumn, e.table, e.dimensionColumn⟩ ∨
    s = ⟨e.table, e.dimensionColumn, e.factTable, e.factColumn⟩

lemma IsOver.touches {s : JoinStep} {e : JoinEdge} (h : IsOver s e) {edges : List JoinEdge}
    (he : e ∈ edges) : Touches edges s.parent s.table := by
  rcases h with rfl | rfl
  · exact ⟨e, he, .inl ⟨rfl, rfl⟩⟩
  · exact ⟨e, he, .inr ⟨rfl, rfl⟩⟩

lemma stepOver_eq_some {parent : String} {e : JoinEdge} {s : JoinStep}
    (h : stepOver parent e = some s) : IsOver s e ∧ s.parent = parent := by
  unfold stepOver at h
  split at h
  · rename_i ht
    obtain rfl := Option.some.inj h
    exact ⟨.inl (by rw [beq_iff_eq.mp ht]), rfl⟩
  · split at h
    · rename_i ht
      obtain rfl := Option.some.inj h
      exact ⟨.inr (by rw [beq_iff_eq.mp ht]), rfl⟩
    · exact absurd h (by simp)

lemma stepOver_of_touches {kept : List JoinEdge} {s t : String} (h : Touches kept s t) :
    ∃ e ∈ kept, ∃ step, stepOver s e = some step ∧ step.table = t := by
  obtain ⟨e, he, ⟨rfl, rfl⟩ | ⟨rfl, rfl⟩⟩ := h
  · refine ⟨e, he, ⟨e.factTable, e.factColumn, e.table, e.dimensionColumn⟩, ?_, rfl⟩
    simp [stepOver]
  · by_cases hloop : e.table = e.factTable
    · refine ⟨e, he, ⟨e.factTable, e.factColumn, e.factTable, e.dimensionColumn⟩, ?_,
        hloop.symm⟩
      simp [stepOver, hloop]
    · refine ⟨e, he, ⟨e.table, e.dimensionColumn, e.factTable, e.factColumn⟩, ?_, rfl⟩
      simp [stepOver, hloop]

lemma mem_stepsOut {kept : List JoinEdge} {seen : List String} {parent : String}
    {s : JoinStep} : s ∈ stepsOut kept seen parent ↔
      (∃ e ∈ kept, stepOver parent e = some s) ∧ s.table ∉ seen := by
  simp [stepsOut]

/-- Two edges that count lead from a table to different tables. -/
lemma stepsOut_nodup {kept : List JoinEdge} (hk : Simple kept) (seen : List String)
    (parent : String) : ((stepsOut kept seen parent).map (·.table)).Nodup := by
  have hsteps : (kept.filterMap (stepOver parent)).Pairwise fun s t => s.table ≠ t.table := by
    rw [List.pairwise_filterMap]
    refine hk.pairwise.imp ?_
    intro e f hef s hs t ht heq
    obtain ⟨hse, hsp⟩ := stepOver_eq_some hs
    obtain ⟨htf, htp⟩ := stepOver_eq_some ht
    have hsame : samePair e f = true := by
      rw [samePair_iff]
      rcases hse with rfl | rfl <;> rcases htf with rfl | rfl <;> simp_all
    rw [hsame] at hef
    cases hef
  exact List.pairwise_map.mpr (hsteps.filter _)

/-! ### Trees of steps -/

/-- Each step joins a table that is not there yet onto one that is. -/
def Grows : List String → List JoinStep → Prop
  | _, [] => True
  | there, s :: steps => s.parent ∈ there ∧ s.table ∉ there ∧ Grows (there ++ [s.table]) steps

lemma grows_append {there : List String} {steps rest : List JoinStep} :
    Grows there (steps ++ rest) ↔
      Grows there steps ∧ Grows (there ++ steps.map (·.table)) rest := by
  induction steps generalizing there with
  | nil => simp [Grows]
  | cons s steps ih => simp [Grows, ih, and_assoc]

lemma Grows.of_parent {there : List String} {parent : String} {steps : List JoinStep}
    (hp : parent ∈ there) (hparent : ∀ s ∈ steps, s.parent = parent)
    (hnodup : (steps.map (·.table)).Nodup) (hnew : ∀ s ∈ steps, s.table ∉ there) :
    Grows there steps := by
  induction steps generalizing there with
  | nil => trivial
  | cons s steps ih =>
    simp only [List.map_cons, List.nodup_cons, List.mem_map, not_exists, not_and] at hnodup
    refine ⟨?_, hnew s (by simp), ih (by simp [hp]) ?_ hnodup.2 ?_⟩
    · rw [hparent s (by simp)]
      exact hp
    · exact fun t ht => hparent t (by simp [ht])
    · intro t ht
      have hne := hnodup.1 t ht
      simp [hnew t (by simp [ht]), hne]

/-- No table is joined twice, nor one that was there at the start. -/
theorem Grows.nodup {there : List String} {steps : List JoinStep} (hg : Grows there steps)
    (hthere : there.Nodup) : (there ++ steps.map (·.table)).Nodup := by
  induction steps generalizing there with
  | nil => simpa using hthere
  | cons s steps ih =>
    have hnodup : (there ++ [s.table]).Nodup := by
      rw [List.nodup_append]
      refine ⟨hthere, List.nodup_singleton _, ?_⟩
      intro t ht u hu heq
      rw [List.mem_singleton.mp hu] at heq
      exact hg.2.1 (heq ▸ ht)
    simpa using ih hg.2.2 hnodup

/-- The parent of a step is there before the step. -/
theorem Grows.parent_mem {there : List String} {before after : List JoinStep} {s : JoinStep}
    (hg : Grows there (before ++ s :: after)) :
    s.parent ∈ there ++ before.map (·.table) :=
  (grows_append.mp hg).2.1

/-- All tables of a growing tree are linked to the tables it starts from. -/
theorem Grows.linked {edges : List JoinEdge} {base : String} {there : List String}
    {steps : List JoinStep} (hg : Grows there steps)
    (hover : ∀ s ∈ steps, ∃ e ∈ edges, IsOver s e)
    (hthere : ∀ t ∈ there, Linked edges base t) :
    ∀ t ∈ there ++ steps.map (·.table), Linked edges base t := by
  induction steps generalizing there with
  | nil => simpa using hthere
  | cons s steps ih =>
    obtain ⟨e, he, hse⟩ := hover s (by simp)
    have hs : Linked edges base s.table := (hthere _ hg.1).tail (hse.touches he)
    have hthere' : ∀ t ∈ there ++ [s.table], Linked edges base t := by
      intro t ht
      rcases List.mem_append.mp ht with ht | ht
      · exact hthere t ht
      · rw [List.mem_singleton.mp ht]
        exact hs
    simpa using ih hg.2.2 (fun t ht => hover t (by simp [ht])) hthere'

/-! ### The search -/

lemma breadthFirst_cons (kept : List JoinEdge) (fuel : Nat) (parent : String)
    (queue seen : List String) :
    breadthFirst kept (fuel + 1) (parent :: queue) seen =
      stepsOut kept seen parent ++
        breadthFirst kept fuel (queue ++ (stepsOut kept seen parent).map (·.table))
          (seen ++ (stepsOut kept seen parent).map (·.table)) := rfl

theorem breadthFirst_over {kept : List JoinEdge} {fuel : Nat} {queue seen : List String} :
    ∀ s ∈ breadthFirst kept fuel queue seen, ∃ e ∈ kept, IsOver s e := by
  induction fuel generalizing queue seen with
  | zero => simp [breadthFirst]
  | succ fuel ih =>
    cases queue with
    | nil => simp [breadthFirst]
    | cons parent queue =>
      intro s hs
      rw [breadthFirst_cons] at hs
      rcases List.mem_append.mp hs with hs | hs
      · obtain ⟨⟨e, he, hse⟩, _⟩ := mem_stepsOut.mp hs
        exact ⟨e, he, (stepOver_eq_some hse).1⟩
      · exact ih s hs

theorem breadthFirst_grows {kept : List JoinEdge} (hk : Simple kept) {fuel : Nat}
    {queue seen : List String} (hqueue : ∀ t ∈ queue, t ∈ seen) :
    Grows seen (breadthFirst kept fuel queue seen) := by
  induction fuel generalizing queue seen with
  | zero => simp [breadthFirst, Grows]
  | succ fuel ih =>
    cases queue with
    | nil => simp [breadthFirst, Grows]
    | cons parent queue =>
      rw [breadthFirst_cons, grows_append]
      refine ⟨?_, ih ?_⟩
      · refine .of_parent (hqueue parent (by simp)) ?_ (stepsOut_nodup hk seen parent) ?_
        · intro s hs
          obtain ⟨⟨e, _, hse⟩, _⟩ := mem_stepsOut.mp hs
          exact (stepOver_eq_some hse).2
        · exact fun s hs => (mem_stepsOut.mp hs).2
      · intro t ht
        rcases List.mem_append.mp ht with ht | ht
        · exact List.mem_append_left _ (hqueue t (by simp [ht]))
        · exact List.mem_append_right _ ht

/-- The tables of edges that are not seen yet. -/
def unseen (kept : List JoinEdge) (seen : List String) : Finset String :=
  (kept.flatMap fun e => [e.table, e.factTable]).toFinset \ seen.toFinset

lemma mem_unseen {kept : List JoinEdge} {seen : List String} {t : String} :
    t ∈ unseen kept seen ↔ (∃ s, Touches kept s t) ∧ t ∉ seen := by
  simp only [unseen, Finset.mem_sdiff, List.mem_toFinset, List.mem_flatMap, List.mem_cons,
    List.not_mem_nil, or_false]
  refine and_congr_left fun _ => ⟨?_, ?_⟩
  · rintro ⟨e, he, rfl | rfl⟩
    · exact ⟨e.factTable, e, he, .inr ⟨rfl, rfl⟩⟩
    · exact ⟨e.table, e, he, .inl ⟨rfl, rfl⟩⟩
  · rintro ⟨s, e, he, ⟨_, rfl⟩ | ⟨rfl, _⟩⟩
    · exact ⟨e, he, .inr rfl⟩
    · exact ⟨e, he, .inl rfl⟩

lemma card_unseen_le (kept : List JoinEdge) (seen : List String) :
    (unseen kept seen).card ≤ 2 * kept.length := by
  have hlen : (kept.flatMap fun e => [e.table, e.factTable]).length = 2 * kept.length := by
    simp [List.length_flatMap, Nat.mul_comm]
  exact (Finset.card_le_card Finset.sdiff_subset).trans
    ((List.toFinset_card_le _).trans hlen.le)

/-- The tables that one visit finds are seen afterwards. -/
lemma card_unseen_stepsOut {kept : List JoinEdge} (hk : Simple kept) (seen : List String)
    (parent : String) :
    (unseen kept (seen ++ (stepsOut kept seen parent).map (·.table))).card +
      ((stepsOut kept seen parent).map (·.table)).length = (unseen kept seen).card := by
  have hnew : ((stepsOut kept seen parent).map (·.table)).toFinset ⊆ unseen kept seen := by
    intro t ht
    obtain ⟨s, hs, rfl⟩ := List.mem_map.mp (List.mem_toFinset.mp ht)
    obtain ⟨⟨e, he, hse⟩, hseen⟩ := mem_stepsOut.mp hs
    exact mem_unseen.mpr ⟨⟨s.parent, (stepOver_eq_some hse).1.touches he⟩, hseen⟩
  have hsplit : unseen kept (seen ++ (stepsOut kept seen parent).map (·.table)) =
      unseen kept seen \ ((stepsOut kept seen parent).map (·.table)).toFinset := by
    ext t
    simp only [unseen, List.toFinset_append, Finset.mem_sdiff, Finset.mem_union, not_or,
      and_assoc]
  rw [hsplit, ← List.toFinset_card_of_nodup (stepsOut_nodup hk seen parent)]
  exact Finset.card_sdiff_add_card_eq_card hnew

/-- After a visit, every table that touches the one visited is seen. -/
lemma mem_seen_of_touches {kept : List JoinEdge} {parent t : String} (seen : List String)
    (h : Touches kept parent t) : t ∈ seen ++ (stepsOut kept seen parent).map (·.table) := by
  by_cases ht : t ∈ seen
  · exact List.mem_append_left _ ht
  · obtain ⟨e, he, step, hstep, rfl⟩ := stepOver_of_touches h
    have hmem : step ∈ stepsOut kept seen parent := mem_stepsOut.mpr ⟨⟨e, he, hstep⟩, ht⟩
    exact List.mem_append_right _ (List.mem_map_of_mem hmem)

/-- A visit keeps it so that the tables seen earlier than those in the queue have had their
turn. -/
lemma turns_stepsOut {kept : List JoinEdge} {parent : String} {queue seen : List String}
    (hdone : ∀ s ∈ seen, s ∉ parent :: queue → ∀ t, Touches kept s t → t ∈ seen) :
    ∀ s ∈ seen ++ (stepsOut kept seen parent).map (·.table),
      s ∉ queue ++ (stepsOut kept seen parent).map (·.table) → ∀ t, Touches kept s t →
        t ∈ seen ++ (stepsOut kept seen parent).map (·.table) := by
  intro s hs hsq t hst
  rcases List.mem_append.mp hs with hs | hs
  · by_cases hp : s = parent
    · exact mem_seen_of_touches seen (hp ▸ hst)
    · have hs' : s ∉ parent :: queue := by
        intro hmem
        rcases List.mem_cons.mp hmem with hmem | hmem
        · exact hp hmem
        · exact hsq (List.mem_append_left _ hmem)
      exact List.mem_append_left _ (hdone s hs hs' t hst)
  · exact absurd (List.mem_append_right _ hs) hsq

/-- With enough fuel the search leaves out no table that touches one it has seen. The
invariant is that the tables seen earlier than those in the queue have had their turn. -/
theorem breadthFirst_closed {kept : List JoinEdge} (hk : Simple kept) (fuel : Nat)
    (queue seen : List String)
    (hdone : ∀ s ∈ seen, s ∉ queue → ∀ t, Touches kept s t → t ∈ seen)
    (hfuel : queue.length + (unseen kept seen).card ≤ fuel) :
    ∀ s ∈ seen ++ (breadthFirst kept fuel queue seen).map (·.table), ∀ t,
      Touches kept s t → t ∈ seen ++ (breadthFirst kept fuel queue seen).map (·.table) := by
  induction fuel generalizing queue seen with
  | zero =>
    have hq : queue = [] := List.length_eq_zero_iff.mp (by omega)
    subst hq
    simpa [breadthFirst] using hdone
  | succ fuel ih =>
    cases queue with
    | nil => simpa [breadthFirst] using hdone
    | cons parent queue =>
      have hcard := card_unseen_stepsOut hk seen parent
      rw [breadthFirst_cons]
      simp only [List.map_append, ← List.append_assoc]
      refine ih _ _ (turns_stepsOut hdone) ?_
      simp only [List.length_append, List.length_cons] at hfuel ⊢
      omega

/-- More fuel than a search needs changes nothing. -/
theorem breadthFirst_of_le {kept : List JoinEdge} (hk : Simple kept) {fuel fuel' : Nat}
    (queue seen : List String) (hfuel : queue.length + (unseen kept seen).card ≤ fuel)
    (hle : fuel ≤ fuel') :
    breadthFirst kept fuel' queue seen = breadthFirst kept fuel queue seen := by
  induction fuel generalizing fuel' queue seen with
  | zero =>
    have hq : queue = [] := List.length_eq_zero_iff.mp (by omega)
    subst hq
    cases fuel' <;> rfl
  | succ fuel ih =>
    obtain ⟨more, rfl⟩ : ∃ more, fuel' = more + 1 := ⟨fuel' - 1, by omega⟩
    cases queue with
    | nil => rfl
    | cons parent queue =>
      have hcard := card_unseen_stepsOut hk seen parent
      rw [breadthFirst_cons, breadthFirst_cons]
      rw [ih _ _ ?_ (by omega)]
      simp only [List.length_append, List.length_cons] at hfuel ⊢
      omega

/-! ### The join order -/

theorem stepsFrom_over {edges : List JoinEdge} {base : String} :
    ∀ s ∈ stepsFrom edges base, ∃ e ∈ treeEdges edges, IsOver s e :=
  breadthFirst_over

theorem stepsFrom_grows (edges : List JoinEdge) (base : String) :
    Grows [base] (stepsFrom edges base) :=
  breadthFirst_grows (treeEdges_simple edges) (by simp)

/-- Every table is joined once. -/
theorem reachable_nodup (edges : List JoinEdge) (base : String) :
    (reachable edges base).Nodup :=
  (stepsFrom_grows edges base).nodup (List.nodup_singleton base)

/-- The tables that are joined are those that are linked to the base table. -/
theorem mem_reachable {edges : List JoinEdge} {base t : String} :
    t ∈ reachable edges base ↔ Linked edges base t := by
  constructor
  · intro ht
    refine linked_treeEdges.mp ?_
    refine (stepsFrom_grows edges base).linked stepsFrom_over ?_ t ht
    intro u hu
    rw [List.mem_singleton.mp hu]
    exact .refl
  · intro ht
    have hclosed : ∀ s ∈ reachable edges base, ∀ u, Touches (treeEdges edges) s u →
        u ∈ reachable edges base := by
      have hfuel := card_unseen_le (treeEdges edges) [base]
      exact breadthFirst_closed (treeEdges_simple edges) _ [base] [base]
        (fun s hs hsq => absurd hs hsq) (by simp only [List.length_singleton]; omega)
    have hkept := linked_treeEdges.mpr ht
    induction hkept with
    | refl => exact List.mem_cons_self
    | tail hlinked hstep ih => exact hclosed _ (ih (linked_treeEdges.mp hlinked)) _ hstep

/-- The search decides whether tables are linked. -/
instance (edges : List JoinEdge) (s t : String) : Decidable (Linked edges s t) :=
  decidable_of_iff (t ∈ reachable edges s) mem_reachable

end MetricLayer.Join
