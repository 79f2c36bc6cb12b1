import MetricLayer.Proofs.Join.Spanning

/-!
# Edges that the join tree leaves out

A table is joined onto the first table of the join order that an edge leads from. So the tree
leaves out an edge that counts exactly if the later of its two tables is joined onto a third
table, which comes before the other one. Then the three tables are on a circle of edges.
-/
namespace MetricLayer.Join

/-! ### The order of tables -/

section
variable {α : Type} {l : List α} {a b c : α}

/-- In a list without repetition, what is before an item is before all that is after it. -/
lemma sublist_of_pairs (h : l.Nodup) (hab : [a, b].Sublist l) (hbc : [b, c].Sublist l) :
    [a, b, c].Sublist l := by
  induction l with
  | nil => cases hab
  | cons d l ih =>
    obtain ⟨hd, hl⟩ := List.nodup_cons.mp h
    have hb : b ∈ l := by
      cases hab with
      | cons _ hab => exact hab.subset (by simp)
      | cons_cons _ hb => exact List.singleton_sublist.mp hb
    cases hbc with
    | cons_cons _ _ => exact absurd hb hd
    | cons _ hbc =>
      cases hab with
      | cons _ hab => exact (ih hl hab hbc).cons d
      | cons_cons _ _ => exact hbc.cons_cons a

/-- Of two different items one is before the other. -/
lemma sublist_or_sublist (ha : a ∈ l) (hb : b ∈ l) (hne : a ≠ b) :
    [a, b].Sublist l ∨ [b, a].Sublist l := by
  obtain ⟨before, after, rfl⟩ := List.append_of_mem ha
  rcases List.mem_append.mp hb with hb | hb
  · have ha' : [a].Sublist (a :: after) := List.singleton_sublist.mpr List.mem_cons_self
    exact .inr ((List.singleton_sublist.mpr hb).append ha')
  · have hafter : b ∈ after := (List.mem_cons.mp hb).resolve_left (Ne.symm hne)
    have hsub := (List.singleton_sublist.mpr hafter).cons_cons a
    exact .inl (hsub.trans (List.sublist_append_right before _))

lemma not_sublist_swap (h : l.Nodup) (hab : [a, b].Sublist l) : ¬ [b, a].Sublist l := by
  intro hba
  have hnodup := (sublist_of_pairs h hab hba).nodup h
  simp at hnodup

end

/-! ### The first table that leads to another -/

/-- The parent of a step comes before all other tables of the search that an edge leads from to
the table of the step. The invariant is that what touches a table that had its turn is seen. -/
theorem breadthFirst_parent_first {kept : List JoinEdge} (fuel : Nat) (turned queue : List String)
    (hturned : ∀ s ∈ turned, ∀ t, Touches kept s t → t ∈ turned ++ queue) {order : List String}
    (horder : order = turned ++ queue ++
      (breadthFirst kept fuel queue (turned ++ queue)).map (·.table)) :
    ∀ s ∈ breadthFirst kept fuel queue (turned ++ queue), ∀ t ∈ order, Touches kept t s.table →
      t ≠ s.parent → [s.parent, t].Sublist order := by
  induction fuel generalizing turned queue with
  | zero => simp [breadthFirst]
  | succ fuel ih =>
    cases queue with
    | nil => simp [breadthFirst]
    | cons parent queue =>
      intro s hs t ht htouches hne
      have hseen : ∀ found : List String, turned ++ parent :: queue ++ found =
          turned ++ [parent] ++ (queue ++ found) := by simp
      rw [breadthFirst_cons] at hs horder
      rcases List.mem_append.mp hs with hs | hs
      · obtain ⟨⟨e, _, hse⟩, hnew⟩ := mem_stepsOut.mp hs
        obtain rfl : s.parent = parent := (stepOver_eq_some hse).2
        have hnot : t ∉ turned := fun hmem => hnew (hturned t hmem _ htouches)
        rw [horder, List.append_assoc, List.append_assoc] at ht ⊢
        have hrest := (List.mem_append.mp ht).resolve_left hnot
        rw [List.cons_append] at hrest ⊢
        have hafter := (List.mem_cons.mp hrest).resolve_left hne
        exact ((List.singleton_sublist.mpr hafter).cons_cons _).trans
          (List.sublist_append_right turned _)
      · rw [hseen] at hs
        rw [List.map_append, ← List.append_assoc, hseen] at horder
        refine ih (turned ++ [parent]) _ ?_ horder s hs t ht htouches hne
        intro u hu v huv
        rw [← hseen]
        rcases List.mem_append.mp hu with hu | hu
        · exact List.mem_append_left _ (hturned u hu v huv)
        · rw [List.mem_singleton.mp hu] at huv
          exact mem_seen_of_touches _ huv

section
variable {edges : List JoinEdge} {base : String} {e : JoinEdge} {s : JoinStep} {t : String}

lemma parent_first (hs : s ∈ stepsFrom edges base) (ht : t ∈ reachable edges base)
    (htouches : Touches (treeEdges edges) t s.table) (hne : t ≠ s.parent) :
    [s.parent, t].Sublist (reachable edges base) :=
  breadthFirst_parent_first _ [] [base] (by simp) rfl s hs t ht htouches hne

/-- A table is joined after its parent. -/
lemma parent_before (hs : s ∈ stepsFrom edges base) :
    [s.parent, s.table].Sublist (reachable edges base) := by
  obtain ⟨before, after, hsteps⟩ := List.append_of_mem hs
  have hgrows := stepsFrom_grows edges base
  rw [hsteps] at hgrows
  have hparent : [s.parent].Sublist ([base] ++ before.map (·.table)) :=
    List.singleton_sublist.mpr hgrows.parent_mem
  have htable : [s.table].Sublist (s.table :: after.map (·.table)) :=
    List.singleton_sublist.mpr List.mem_cons_self
  have horder : reachable edges base =
      ([base] ++ before.map (·.table)) ++ s.table :: after.map (·.table) := by
    rw [reachable, hsteps, List.map_append, List.map_cons]
    rfl
  rw [horder]
  exact hparent.append htable

/-- A table after another one is joined by a step. -/
lemma exists_step_of_sublist {u : String} (h : [u, t].Sublist (reachable edges base)) :
    ∃ s ∈ stepsFrom edges base, s.table = t := by
  have ht : t ∈ (stepsFrom edges base).map (·.table) := by
    cases h with
    | cons _ h => exact h.subset (by simp)
    | cons_cons _ h => exact List.singleton_sublist.mp h
  obtain ⟨s, hs, hst⟩ := List.mem_map.mp ht
  exact ⟨s, hs, hst⟩

/-- A step between the tables of an edge that counts is over this edge. -/
lemma isOver_of_tables (he : e ∈ treeEdges edges) (hs : s ∈ stepsFrom edges base)
    (htables : s.parent = e.table ∧ s.table = e.factTable ∨
      s.parent = e.factTable ∧ s.table = e.table) : IsOver s e := by
  obtain ⟨f, hf, hsf⟩ := stepsFrom_over s hs
  have hsame : samePair e f = true := by
    rw [samePair_iff]
    rcases hsf with rfl | rfl <;> rcases htables with ⟨h, h'⟩ | ⟨h, h'⟩ <;> simp_all
  rw [(treeEdges_simple edges).eq_of_samePair he hf hsame]
  exact hsf

/-- Steps that join the same table are the same. -/
lemma step_eq_of_table {s' : JoinStep} (hs : s ∈ stepsFrom edges base)
    (hs' : s' ∈ stepsFrom edges base) (h : s.table = s'.table) : s = s' :=
  List.inj_on_of_nodup_map (List.nodup_cons.mp (reachable_nodup edges base)).2 hs hs' h

end

/-! ### Left out -/

/-- The tree leaves an edge out: the later one of its tables is joined onto a third table, which
comes before the other one in the join order. -/
def LeftOut (edges : List JoinEdge) (base : String) (e : JoinEdge) : Prop :=
  ∃ s ∈ stepsFrom edges base, ∃ other,
    (s.table = e.table ∧ other = e.factTable ∨ s.table = e.factTable ∧ other = e.table) ∧
      [s.parent, other, s.table].Sublist (reachable edges base)

section
variable {edges : List JoinEdge} {base : String} {e : JoinEdge}

/-- The later table of an edge without a step is joined onto a third table. -/
lemma exists_third {t u : String} (he : e ∈ treeEdges edges)
    (htables : t = e.table ∧ u = e.factTable ∨ t = e.factTable ∧ u = e.table)
    (hnot : ¬ ∃ s ∈ stepsFrom edges base, IsOver s e)
    (horder : [u, t].Sublist (reachable edges base)) : LeftOut edges base e := by
  obtain ⟨s, hs, rfl⟩ := exists_step_of_sublist horder
  have hparent : u ≠ s.parent := by
    rintro rfl
    exact hnot ⟨s, hs, isOver_of_tables he hs (htables.symm.imp And.symm And.symm)⟩
  have htouches : Touches (treeEdges edges) u s.table := by
    rcases htables with ⟨h, h'⟩ | ⟨h, h'⟩
    · exact ⟨e, he, .inr ⟨h.symm, h'.symm⟩⟩
    · exact ⟨e, he, .inl ⟨h'.symm, h.symm⟩⟩
  have hfirst := parent_first hs (horder.subset (by simp)) htouches hparent
  exact ⟨s, hs, u, htables, sublist_of_pairs (reachable_nodup edges base) hfirst horder⟩

/-- Whether an edge is left out depends on its tables only. -/
lemma LeftOut.of_samePair {f : JoinEdge} (h : LeftOut edges base e)
    (hpair : samePair f e = true) : LeftOut edges base f := by
  obtain ⟨s, hs, other, htables, horder⟩ := h
  refine ⟨s, hs, other, ?_, horder⟩
  rcases samePair_iff.mp hpair with ⟨ht, hf⟩ | ⟨ht, hf⟩
  · rwa [ht, hf]
  · rw [ht, hf]
    exact htables.symm

/-- An edge that counts, between tables that are joined, is left out exactly if no step is over
it. -/
theorem leftOut_iff (he : e ∈ treeEdges edges) (ht : e.table ∈ reachable edges base)
    (hf : e.factTable ∈ reachable edges base) :
    LeftOut edges base e ↔ ¬ ∃ s ∈ stepsFrom edges base, IsOver s e := by
  constructor
  · rintro ⟨s, hs, other, htables, horder⟩ ⟨s', hs', hover⟩
    have hnodup := reachable_nodup edges base
    have hafter : [other, s.table].Sublist (reachable edges base) :=
      (List.sublist_cons_self s.parent _).trans horder
    have hbefore := parent_before hs'
    have hends : s'.table = s.table ∧ s'.parent = other ∨
        s'.table = other ∧ s'.parent = s.table := by
      rcases hover with rfl | rfl <;> rcases htables with ⟨h, h'⟩ | ⟨h, h'⟩ <;> simp_all
    rcases hends with ⟨htable, hparent⟩ | ⟨htable, hparent⟩
    · rw [step_eq_of_table hs' hs htable] at hparent
      rw [hparent] at horder
      exact absurd (horder.nodup hnodup) (by simp)
    · rw [htable, hparent] at hbefore
      exact not_sublist_swap hnodup hafter hbefore
  · intro hnot
    have hne := (treeEdges_simple edges).loopless e he
    rcases sublist_or_sublist ht hf hne with horder | horder
    · exact exists_third he (.inr ⟨rfl, rfl⟩) hnot horder
    · exact exists_third he (.inl ⟨rfl, rfl⟩) hnot horder

end

end MetricLayer.Join
