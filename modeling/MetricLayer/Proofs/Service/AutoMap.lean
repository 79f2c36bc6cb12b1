import MetricLayer.Proofs.Service.Lookup
import MetricLayer.Proofs.Store.Mappings
import MetricLayer.Proofs.Store.Records
import MetricLayer.Service.AutoMap

/-!
# Inferred mappings

With lookups that succeed, each pair of a connection that is not mapped yet, is on two tables,
and has a column in common gets a mapping, in the order of the pairs. No other pair is touched.
-/
namespace MetricLayer.Service
open Join Store

/-- The ids of a pair. -/
def idsOf (e : Fact × Dimension) : Int × Int := (e.1.id, e.2.id)

/-- The mapping that the columns of its tables give a pair. -/
def inferredMapping (g : String → List String) (f : Fact) (d : Dimension) : Option Mapping :=
  if (g d.table).contains d.column then
    (commonColumn (g f.table) (g d.table)).map fun c => ⟨none, f.id, d.id, d.table, c, c⟩
  else none

/-- Whether a pair stays as it is: it is mapped, or needs no join. -/
def isSettled (store : Store) (e : Fact × Dimension) : Bool :=
  (mappingOf store.mappings e.1.id e.2.id).isSome || e.1.table == e.2.table

/-- The mapping that a pair gets. -/
def newMapping (g : String → List String) (store : Store) (e : Fact × Dimension) :
    Option Mapping :=
  if isSettled store e then none else inferredMapping g e.1 e.2

lemma pair_of_inferredMapping {g : String → List String} {f : Fact} {d : Dimension}
    {x : Mapping} (h : inferredMapping g f d = some x) : x.pair = (f.id, d.id) := by
  unfold inferredMapping at h
  split at h
  · obtain ⟨c, _, rfl⟩ := Option.map_eq_some_iff.mp h
    rfl
  · cases h

lemma pair_of_newMapping {g : String → List String} {store : Store} {e : Fact × Dimension}
    {x : Mapping} (h : newMapping g store e = some x) : x.pair = idsOf e := by
  unfold newMapping at h
  split at h
  · cases h
  · exact pair_of_inferredMapping h

lemma inferred_of_newMapping {g : String → List String} {store : Store} {f : Fact}
    {d : Dimension} {x : Mapping} (h : newMapping g store (f, d) = some x) :
    d.table ≠ f.table ∧ inferredMapping g f d = some x := by
  unfold newMapping at h
  split at h
  · cases h
  · rename_i hsettled
    refine ⟨fun htable => hsettled ?_, h⟩
    simp [isSettled, htable]

/-! ### The pairs of a connection -/

section
variable {a : Asker} {p : Pool} {g : String → List String} {store store' : Store}

lemma gives_inferMapping (f : Fact) (d : Dimension) :
    Gives (Answering p g store) (inferMapping a f d) (inferredMapping g f d)
      (Answering p g store) := by
  refine .bind (gives_columns d.table) ?_
  unfold inferredMapping
  cases (g d.table).contains d.column with
  | false => exact .pure fun _ h => h
  | true => exact .bind (gives_columns f.table) (.pure fun _ h => h)

lemma gives_storeMappings {x y : Mapping} (h : Stores store x y store') :
    Gives (Answering p g store) (within (storeMappings [x])) [y] (Answering p g store') := by
  intro s hs
  have hrun : within (storeMappings [x]) s = ((s.world.store.addMappings [x]).1,
      { s with world := { s.world with store := (s.world.store.addMappings [x]).2 } }) := rfl
  rw [hrun, hs.serving.store, h.result]
  exact ⟨_, rfl, ⟨rfl, hs.serving.connect, hs.serving.columns⟩, hs.pool, hs.columns⟩

lemma gives_mapPair_none {f : Fact} {d : Dimension} (h : inferredMapping g f d = none) :
    Gives (Answering p g store) (mapPair a f d) [] (Answering p g store) := by
  refine .bind (gives_inferMapping f d) ?_
  rw [h]
  exact .pure fun _ h => h

lemma gives_mapPair_some {f : Fact} {d : Dimension} {x y : Mapping}
    (h : inferredMapping g f d = some x) (hstores : Stores store x y store') :
    Gives (Answering p g store) (mapPair a f d) [y] (Answering p g store') := by
  refine .bind (gives_inferMapping f d) ?_
  rw [h]
  exact gives_storeMappings hstores

/-- Storing the mapping of one pair does not map another pair. -/
lemma mappingOf_of_stores {x y : Mapping} (h : Stores store x y store') {e : Fact × Dimension}
    (hne : x.pair ≠ idsOf e) :
    mappingOf store'.mappings e.1.id e.2.id = mappingOf store.mappings e.1.id e.2.id := by
  have hfor : isFor e.1.id e.2.id x = false := by
    rw [isFor_eq, Bool.eq_false_iff]
    exact fun heq => hne (beq_iff_eq.mp heq)
  rw [h.mapping, hfor]
  rfl

/-- The mapping of a pair that is not settled can be stored. -/
lemma exists_stores_of_unsettled {f : Fact} {d : Dimension} {x : Mapping}
    (h : isSettled store (f, d) = false) (hpair : x.pair = (f.id, d.id)) :
    ∃ y store', Stores store x y store' := by
  obtain ⟨hf, hd⟩ := Prod.mk.inj hpair
  refine exists_stores ?_
  rw [hf, hd]
  simpa [isSettled] using (Bool.or_eq_false_iff.mp h).1

lemma isSettled_of_stores {x y : Mapping} (h : Stores store x y store') {e : Fact × Dimension}
    (hne : x.pair ≠ idsOf e) : isSettled store' e = isSettled store e := by
  rw [isSettled, isSettled, mappingOf_of_stores h hne]

lemma newMapping_of_stores {x y : Mapping} (h : Stores store x y store') {e : Fact × Dimension}
    (hne : x.pair ≠ idsOf e) : newMapping g store' e = newMapping g store e := by
  rw [newMapping, newMapping, isSettled_of_stores h hne]

/-- Among given pairs, those that are known to be mapped are those that a store maps. -/
def Knows (store : Store) (existing : List (Int × Int)) (pairs : List (Fact × Dimension)) :
    Prop :=
  ∀ e ∈ pairs, idsOf e ∈ existing ↔ (mappingOf store.mappings e.1.id e.2.id).isSome

lemma Knows.settled {existing : List (Int × Int)} {f : Fact} {d : Dimension}
    {pairs : List (Fact × Dimension)} (h : Knows store existing ((f, d) :: pairs)) :
    (existing.contains (f.id, d.id) || f.table == d.table) = isSettled store (f, d) := by
  refine congrArg (· || f.table == d.table) (Bool.eq_iff_iff.mpr ?_)
  rw [List.contains_iff_mem]
  exact h _ List.mem_cons_self

/-- A pair is known once its mapping is stored. -/
lemma Knows.stored {existing : List (Int × Int)} {pairs : List (Fact × Dimension)}
    (h : Knows store existing pairs) {x y : Mapping} (hstores : Stores store x y store')
    (hdiffer : ∀ e ∈ pairs, x.pair ≠ idsOf e) : Knows store' (x.pair :: existing) pairs := by
  intro e he
  rw [mappingOf_of_stores hstores (hdiffer e he), ← h e he, List.mem_cons]
  exact or_iff_right (hdiffer e he).symm

/-- Going through pairs maps those that are to be mapped. -/
theorem gives_mapPairs {pairs : List (Fact × Dimension)} (hids : (pairs.map idsOf).Nodup)
    {existing : List (Int × Int)} (r : AutoMapResult) (hknows : Knows store existing pairs) :
    ∃ created store', StoresAll store (pairs.filterMap (newMapping g store)) created store' ∧
      ∀ p, Gives (Answering p g store) (mapPairs a existing r pairs)
        ⟨r.created ++ created, r.skipped + pairs.countP (isSettled store), r.failures⟩
        (Answering p g store') := by
  induction pairs generalizing existing r store with
  | nil =>
    refine ⟨[], store, .nil, fun p => ?_⟩
    rw [List.append_nil]
    exact .pure fun _ h => h
  | cons e pairs ih =>
    obtain ⟨f, d⟩ := e
    simp only [List.map_cons, List.nodup_cons] at hids
    have hrest : Knows store existing pairs := fun e he => hknows e (List.mem_cons_of_mem _ he)
    rw [mapPairs, hknows.settled, List.filterMap_cons, List.countP_cons]
    cases hsettled : isSettled store (f, d) with
    | true =>
      obtain ⟨created, store', hall, hgives⟩ := ih hids.2 { r with skipped := r.skipped + 1 } hrest
      refine ⟨created, store', ?_, fun p => ?_⟩
      · simpa only [newMapping, hsettled, if_true] using hall
      · have hcount : r.skipped + 1 + pairs.countP (isSettled store) =
            r.skipped + (pairs.countP (isSettled store) + 1) := by omega
        simpa only [if_true, hcount] using hgives p
    | false =>
      have hnew : newMapping g store (f, d) = inferredMapping g f d := by
        simp [newMapping, hsettled]
      simp only [Bool.false_eq_true, if_false, Nat.add_zero, hnew]
      cases hx : inferredMapping g f d with
      | none =>
        obtain ⟨created, store', hall, hgives⟩ := ih hids.2 r hrest
        exact ⟨created, store', hall, fun p => .bind (gives_mapPair_none hx).outcome (hgives p)⟩
      | some x =>
        have hpair := pair_of_inferredMapping hx
        have hdiffer : ∀ e ∈ pairs, x.pair ≠ idsOf e := fun e he heq =>
          hids.1 (List.mem_map.mpr ⟨e, he, (hpair.symm.trans heq).symm⟩)
        obtain ⟨y, store₁, hstores⟩ := exists_stores_of_unsettled hsettled hpair
        obtain ⟨created, store', hall, hgives⟩ := ih hids.2
          { r with created := r.created ++ [y] } (hrest.stored hstores hdiffer)
        rw [List.filterMap_congr fun e he => newMapping_of_stores hstores (hdiffer e he)] at hall
        have hcount : pairs.countP (isSettled store₁) = pairs.countP (isSettled store) :=
          List.countP_congr fun e he => by rw [isSettled_of_stores hstores (hdiffer e he)]
        rw [List.append_assoc, hpair, hcount] at hgives
        exact ⟨y :: created, store', .cons hstores hall, fun p =>
          .bind (gives_mapPair_some hx hstores).outcome (hgives p)⟩

/-! ### A connection -/

lemma mem_allPairs {fs : List Fact} {ds : List Dimension} {e : Fact × Dimension} :
    e ∈ allPairs fs ds ↔ e.1 ∈ fs ∧ e.2 ∈ ds := by
  simp only [allPairs, List.mem_flatMap, List.mem_map]
  constructor
  · rintro ⟨d, hd, f, hf, rfl⟩
    exact ⟨hf, hd⟩
  · rintro ⟨hf, hd⟩
    exact ⟨e.2, hd, e.1, hf, rfl⟩

/-- Pairs are told apart by the ids of their facts and dimensions. -/
lemma nodup_allPairs {fs : List Fact} {ds : List Dimension} (hfs : (fs.map (·.id)).Nodup)
    (hds : (ds.map (·.id)).Nodup) : ((allPairs fs ds).map idsOf).Nodup := by
  rw [allPairs, List.map_flatMap, List.nodup_flatMap]
  constructor
  · intro d _
    rw [List.map_map]
    have hpair : (fs.map (·.id)).map (fun id => (id, d.id)) =
        fs.map (idsOf ∘ fun f => (f, d)) := List.map_map
    rw [← hpair]
    exact hfs.map fun _ _ heq => (Prod.mk.inj heq).1
  · refine (List.pairwise_map.mp hds).imp fun hne => ?_
    intro k hk hk'
    simp only [List.map_map, List.mem_map] at hk hk'
    obtain ⟨f, _, rfl⟩ := hk
    obtain ⟨f', _, heq⟩ := hk'
    exact hne (Prod.mk.inj heq).2.symm

/-- The columns of some table are looked up first. -/
lemma tablesOf_ne_nil {fs : List Fact} {ds : List Dimension} (h : fs.isEmpty = false) :
    tablesOf fs ds ≠ [] := by
  obtain ⟨f, hf⟩ := List.exists_mem_of_ne_nil fs (List.isEmpty_eq_false_iff.mp h)
  refine List.ne_nil_of_mem (a := f.table) ?_
  rw [tablesOf, List.mem_mergeSort, List.mem_eraseDups]
  exact List.mem_append_left _ (List.mem_map_of_mem hf)

lemma allPairs_eq_nil {fs : List Fact} {ds : List Dimension}
    (h : (fs.isEmpty || ds.isEmpty) = true) : allPairs fs ds = [] := by
  rw [List.eq_nil_iff_forall_not_mem]
  intro e he
  obtain ⟨hf, hd⟩ := mem_allPairs.mp he
  rcases Bool.or_eq_true_iff.mp h with h | h
  · rw [List.isEmpty_iff.mp h] at hf
    cases hf
  · rw [List.isEmpty_iff.mp h] at hd
    cases hd

lemma mem_existing {fs : List Fact} {ds : List Dimension} {e : Fact × Dimension}
    (he : e ∈ allPairs fs ds) :
    idsOf e ∈ (store.mappingsOf (fs.map (·.id)) (some (ds.map (·.id)))).map (·.pair) ↔
      (mappingOf store.mappings e.1.id e.2.id).isSome := by
  obtain ⟨hf, hd⟩ := mem_allPairs.mp he
  rw [← store.mappingOf_mappingsOf (List.mem_map_of_mem hf) (List.mem_map_of_mem hd),
    Option.isSome_iff_ne_none, Ne, mappingOf_eq_none_iff, List.mem_map]
  push Not
  rfl

/-- Without the facts of a connection, nothing is looked up or stored. -/
lemma autoMapPairs_unread {s : Session} {x : Fault}
    (h : s.world.store.factsOn a.connectionId = .error x) :
    autoMapPairs a s = (.error x, s) := by
  have hview : within (view (·.store)) s = (.ok s.world.store, s) := rfl
  have hlift : within (lift (s.world.store.factsOn a.connectionId)) s = (.error x, s) := by
    rw [h]
    rfl
  unfold autoMapPairs
  rw [run_bind_ok hview, run_bind_error hlift]

/-- All pairs of a connection that are to be mapped are mapped, and nothing else changes. -/
theorem gives_autoMapPairs (hkeyed : store.Keyed) {fs : List Fact}
    (hfs : store.factsOn a.connectionId = .ok fs) :
    ∃ created store', StoresAll store ((allPairs fs (store.dimensionsOn a.connectionId)).filterMap
        (newMapping g store)) created store' ∧
      Gives (Consults a g store) (autoMapPairs a)
        ⟨created, (allPairs fs (store.dimensionsOn a.connectionId)).countP (isSettled store), []⟩
        (Consults a g store') := by
  have hknows : Knows store ((store.mappingsOf (fs.map (·.id))
      (some ((store.dimensionsOn a.connectionId).map (·.id)))).map (·.pair))
      (allPairs fs (store.dimensionsOn a.connectionId)) := fun _ => mem_existing
  have hids := nodup_allPairs (hkeyed.facts hfs) (hkeyed.dimensions a.connectionId)
  obtain ⟨created, store', hall, hmaps⟩ := gives_mapPairs (a := a) (g := g) hids {} hknows
  simp only [List.nil_append, Nat.zero_add] at hmaps
  refine ⟨created, store', hall, .of_each fun s hs => ?_⟩
  have hview : Gives (· = s) (within (view (·.store))) store (· = s) := by
    intro u hu
    rw [hu]
    exact ⟨s, Prod.ext (congrArg Except.ok hs.sameStore) rfl, rfl⟩
  have hlift : Gives (· = s) (within (lift (store.factsOn a.connectionId))) fs (· = s) := by
    rw [hfs]
    exact fun s hs => ⟨s, rfl, hs⟩
  refine .bind hview (.bind hlift ?_)
  dsimp only
  cases hempty : fs.isEmpty || (store.dimensionsOn a.connectionId).isEmpty with
  | true =>
    rw [allPairs_eq_nil hempty] at hall ⊢
    cases hall
    exact .pure fun _ heq => heq ▸ hs
  | false =>
    have htables : tablesOf fs (store.dimensionsOn a.connectionId) ≠ [] :=
      tablesOf_ne_nil (Bool.or_eq_false_iff.mp hempty).1
    obtain ⟨p, hcolumns⟩ := hs.gives_columnsFor htables
    exact .bind hcolumns.outcome ((hmaps p).mono (fun _ h => h) fun _ h => .opened h)

end

end MetricLayer.Service
