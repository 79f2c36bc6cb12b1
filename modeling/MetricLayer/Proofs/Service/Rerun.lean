import MetricLayer.Proofs.Service.Persist
import MetricLayer.Proofs.Store.Connection
import MetricLayer.Proofs.Store.Held

/-!
# Inferring mappings again

A run stores one mapping for each pair that has none and whose columns give one, under the next
numbers, and reports what it stored. After it, each of these pairs is mapped. So another run
with the same catalog stores nothing: it skips what the first skipped and what the first
created.
-/
namespace MetricLayer.Service
open Store

section
variable {g : String → List String} {store store' : Store} {pairs : List (Fact × Dimension)}

/-! ### What a run stores -/

/-- Each pair has the mapping that is new for it once among all that are new. -/
lemma filter_newMappings (hids : (pairs.map idsOf).Nodup) {e : Fact × Dimension}
    (he : e ∈ pairs) :
    (pairs.filterMap (newMapping g store)).filter (·.pair == idsOf e) =
      (newMapping g store e).toList := by
  have hnodup : ((pairs.filterMap (newMapping g store)).map Mapping.pair).Nodup :=
    (map_key_filterMap_sublist fun _ _ => pair_of_newMapping).nodup hids
  cases hnew : newMapping g store e with
  | some x =>
    rw [← pair_of_newMapping hnew]
    exact filter_key_eq_singleton hnodup (List.mem_filterMap.mpr ⟨e, he, hnew⟩)
  | none =>
    refine List.filter_eq_nil_iff.mpr fun y hy hpair => ?_
    obtain ⟨e', he', hy⟩ := List.mem_filterMap.mp hy
    have heq : idsOf e' = idsOf e := (pair_of_newMapping hy).symm.trans (eq_of_beq hpair)
    rw [List.inj_on_of_nodup_map hids he' he heq, hnew] at hy
    cases hy

/-- What a run makes of pairs: those that are to be mapped are mapped once each, in the order of
the pairs and under the next numbers, after all mappings before them. The pairs that are mapped
already or are on one table are counted, and no pair fails. -/
structure MapsPairs (g : String → List String) (store : Store) (pairs : List (Fact × Dimension))
    (r : AutoMapResult) (store' : Store) : Prop where
  apart : (pairs.map idsOf).Nodup
  created : r.created = numbered store.nextNumber (pairs.filterMap (newMapping g store))
  once : ∀ e ∈ pairs, (r.created.filter (·.pair == idsOf e)).map Mapping.unnumbered =
    ((newMapping g store e).map Mapping.unnumbered).toList
  stored : store' = store.withMore r.created
  skipped : r.skipped = pairs.countP (isSettled store)
  failures : r.failures = []

lemma mapsPairs_of_storesAll (hids : (pairs.map idsOf).Nodup) {created : List Mapping}
    (hall : StoresAll store (pairs.filterMap (newMapping g store)) created store') :
    MapsPairs g store pairs ⟨created, pairs.countP (isSettled store), []⟩ store' := by
  obtain ⟨hcreated, hstored⟩ := hall.numbered
  refine ⟨hids, hcreated, fun e he => ?_, hstored, rfl, rfl⟩
  have hfilter : ∀ xs : List Mapping, (xs.filter (·.pair == idsOf e)).map Mapping.unnumbered =
      (xs.map Mapping.unnumbered).filter (·.pair == idsOf e) := fun xs => by
    rw [List.filter_map]
    rfl
  calc (created.filter (·.pair == idsOf e)).map Mapping.unnumbered
      = ((pairs.filterMap (newMapping g store)).filter (·.pair == idsOf e)).map
          Mapping.unnumbered := by
        rw [hfilter, hfilter, hall.unnumbered]
    _ = ((newMapping g store e).map Mapping.unnumbered).toList := by
        rw [filter_newMappings hids he, Option.toList_map]

/-! ### Pairs after a run -/

/-- A pair is settled, or gets a new mapping, or neither. -/
lemma countP_settled_or_new (g : String → List String) (store : Store)
    (pairs : List (Fact × Dimension)) :
    (pairs.countP fun e => isSettled store e || (newMapping g store e).isSome) =
      pairs.countP (isSettled store) + (pairs.filterMap (newMapping g store)).length := by
  induction pairs with
  | nil => rfl
  | cons e pairs ih =>
    rw [List.countP_cons, List.countP_cons, List.filterMap_cons, ih]
    cases hsettled : isSettled store e with
    | true =>
      have hnone : newMapping g store e = none := by simp [newMapping, hsettled]
      simp only [hnone, Bool.true_or, if_true]
      omega
    | false =>
      cases newMapping g store e with
      | none => simp
      | some x =>
        simp only [Option.isSome_some, Bool.or_true, if_true, Bool.false_eq_true, if_false,
          List.length_cons]
        omega

section
variable {created : List Mapping} (hids : (pairs.map idsOf).Nodup)
  (hall : StoresAll store (pairs.filterMap (newMapping g store)) created store')

include hids hall

/-- After a run, the pairs that got a mapping are settled beside those that were. -/
lemma isSettled_after {e : Fact × Dimension} (he : e ∈ pairs) :
    isSettled store' e = (isSettled store e || (newMapping g store e).isSome) := by
  have hmapped := congrArg Option.isSome (mapping_after hall hids he)
  simp only [Option.isSome_map, Option.isSome_or] at hmapped
  rw [isSettled, isSettled, hmapped, Bool.or_right_comm]

/-- After a run, no pair is to be mapped. -/
lemma newMapping_after {e : Fact × Dimension} (he : e ∈ pairs) : newMapping g store' e = none := by
  rw [newMapping, isSettled_after hids hall he]
  cases hsettled : isSettled store e with
  | true => rfl
  | false =>
    cases hnew : newMapping g store e with
    | some x => rfl
    | none => simpa [newMapping, hsettled] using hnew

lemma newMappings_after : pairs.filterMap (newMapping g store') = [] :=
  List.filterMap_eq_nil_iff.mpr fun _ he => newMapping_after hids hall he

/-- After a run, as many more pairs are settled as mappings are new. -/
lemma countP_isSettled_after :
    pairs.countP (isSettled store') =
      pairs.countP (isSettled store) + (pairs.filterMap (newMapping g store)).length := by
  rw [← countP_settled_or_new]
  exact List.countP_congr fun e he => by rw [isSettled_after hids hall he]

end

end

/-! ### Runs -/

section
variable {a : Asker} {g : String → List String}

/-- A run whose facts can be read goes through the pairs of the connection. -/
lemma run_autoMapPairs {s : Session} {fs : List Fact} (hkeyed : s.world.store.Keyed)
    (hg : Consults a g s.world.store s)
    (hfs : s.world.store.factsOn a.connectionId = .ok fs) :
    let pairs := allPairs fs (s.world.store.dimensionsOn a.connectionId)
    ∃ created s', StoresAll s.world.store (pairs.filterMap (newMapping g s.world.store)) created
        s'.world.store ∧
      autoMapPairs a s = (.ok ⟨created, pairs.countP (isSettled s.world.store), []⟩, s') ∧
      Consults a g s'.world.store s' := by
  intro pairs
  obtain ⟨created, store', hall, hgives⟩ := gives_autoMapPairs (g := g) hkeyed hfs
  obtain ⟨s', hrun, hafter⟩ := hgives s hg
  obtain rfl := hafter.sameStore
  exact ⟨created, s', hall, hrun, hafter⟩

/-- A run that goes through pairs of which none is to be mapped leaves the store as it is. -/
lemma run_autoMapPairs_settled {s : Session} {fs : List Fact} (hkeyed : s.world.store.Keyed)
    (hg : Consults a g s.world.store s)
    (hfs : s.world.store.factsOn a.connectionId = .ok fs)
    (hnone : (allPairs fs (s.world.store.dimensionsOn a.connectionId)).filterMap
      (newMapping g s.world.store) = []) :
    ∃ s', autoMapPairs a s = (.ok ⟨[], (allPairs fs
        (s.world.store.dimensionsOn a.connectionId)).countP (isSettled s.world.store), []⟩, s') ∧
      s'.world.store = s.world.store := by
  obtain ⟨created, s', hall, hrun, -⟩ := run_autoMapPairs hkeyed hg hfs
  rw [hnone] at hall
  generalize hstore : s'.world.store = store' at hall
  cases hall
  exact ⟨s', hrun, hstore⟩

/-- A run with a catalog that answers all lookups maps the pairs of the connection that are to
be mapped, and another run with the same catalog stores nothing and skips them too. If a fact of
the connection cannot be read, a run fails for that and changes nothing. -/
theorem autoMap_settles (s : Session) (hkeyed : s.world.store.Keyed)
    (hg : Consults a g s.world.store s) :
    (∀ x, s.world.store.factsOn a.connectionId = .error x →
      (∃ id, (id, .error x) ∈ s.world.store.factRecords a.connectionId) ∧
        autoMapPairs a s = (.error x, s)) ∧
    ∀ fs, s.world.store.factsOn a.connectionId = .ok fs →
      ∃ r s', autoMapPairs a s = (.ok r, s') ∧
        MapsPairs g s.world.store (allPairs fs (s.world.store.dimensionsOn a.connectionId)) r
          s'.world.store ∧
        Consults a g s'.world.store s' ∧
        ∀ u, u.world.store = s'.world.store → Consults a g u.world.store u →
          ∃ u', autoMapPairs a u = (.ok ⟨[], r.skipped + r.created.length, []⟩, u') ∧
            u'.world.store = u.world.store := by
  refine ⟨fun x hx => ⟨factsOn_error hx, autoMapPairs_unread hx⟩, fun fs hfs => ?_⟩
  have hids := nodup_allPairs (hkeyed.facts hfs) (hkeyed.dimensions a.connectionId)
  obtain ⟨created, s', hall, hrun, hafter⟩ := run_autoMapPairs hkeyed hg hfs
  refine ⟨_, s', hrun, mapsPairs_of_storesAll hids hall, hafter, fun u hu hgu => ?_⟩
  -- The other run sees the same facts and dimensions, so it goes through the same pairs.
  obtain ⟨ms, hms⟩ := hall.records
  have hagree := s.world.store.agree_withMappings ms a.connectionId
  have hfacts : u.world.store.factsOn a.connectionId = .ok fs := by
    rw [hu, hms, hagree.factsOn, hfs]
  have hdimensions : u.world.store.dimensionsOn a.connectionId =
      s.world.store.dimensionsOn a.connectionId := by
    rw [hu, hms]
    cases s.world.store <;> rfl
  have hukeyed : u.world.store.Keyed := by
    rw [hu, hms]
    exact keyed_withMappings hkeyed ms
  have hnone : (allPairs fs (u.world.store.dimensionsOn a.connectionId)).filterMap
      (newMapping g u.world.store) = [] := by
    rw [hdimensions, hu]
    exact newMappings_after hids hall
  obtain ⟨u', hrerun, hsame⟩ := run_autoMapPairs_settled hukeyed hgu hfacts hnone
  refine ⟨u', ?_, hsame⟩
  rw [hrerun, hdimensions, hu, countP_isSettled_after hids hall, hall.numbered.1, length_numbered]

end

/-- Revenue by region is mapped by a first run and skipped by a second one. -/
theorem autoMap_settles_region :
    shop.store.Keyed ∧ Consults ⟨1, none⟩ shopColumns shop.store ⟨shop, {}⟩ ∧
    ∃ r s', autoMapPairs ⟨1, none⟩ ⟨shop, {}⟩ = (.ok r, s') ∧
      r.created = [⟨some 1, 1, 1, "customers", "customer_id", "customer_id"⟩] ∧
      r.skipped = 0 ∧ r.failures = [] ∧ s'.world.store.storedMappings = r.created ∧
      ∃ u', autoMapPairs ⟨1, none⟩ s' = (.ok ⟨[], 1, []⟩, u') ∧
        u'.world.store = s'.world.store := by
  have hkeyed : shop.store.Keyed := (((Built.memory.connection _).fact _).dimension _).keyed
  have hconsults : Consults ⟨1, none⟩ shopColumns shop.store ⟨shop, {}⟩ :=
    .fresh ⟨⟨rfl, fun _ => rfl, fun _ _ => rfl⟩, rfl, rfl⟩
  obtain ⟨r, s', hrun, hmaps, hafter, hagain⟩ :=
    (autoMap_settles ⟨shop, {}⟩ hkeyed hconsults).2 [orderAmount] rfl
  have hcreated : r.created = [⟨some 1, 1, 1, "customers", "customer_id", "customer_id"⟩] :=
    hmaps.created.trans (by decide +kernel)
  have hskipped : r.skipped = 0 := hmaps.skipped.trans (by decide +kernel)
  obtain ⟨u', hrerun, hsame⟩ := hagain s' rfl hafter
  rw [hskipped, hcreated] at hrerun
  refine ⟨hkeyed, hconsults, r, s', hrun, hcreated, hskipped, hmaps.failures, ?_, u', hrerun,
    hsame⟩
  rw [hmaps.stored, storedMappings_withMore]
  rfl

/-- The revenue of orders, and their typical amount by an aggregate that is none of the known
ones. -/
def typicalOrders : World where
  store := .relational {
    connections := [shopConnection]
    facts := [⟨1, 1, "Revenue", "orders", "amount", "sum"⟩,
      ⟨2, 1, "Typical", "orders", "amount", "mode"⟩]
    dimensions := [customerRegion] }
  target := { columns := fun _ _ t => .ok (shopColumns t) }

/-- Revenue by region is to be mapped, but a run fails for the other fact and stores nothing. -/
theorem autoMap_unread :
    typicalOrders.store.Keyed ∧
    Consults ⟨1, none⟩ shopColumns typicalOrders.store ⟨typicalOrders, {}⟩ ∧
    (1, .ok orderAmount) ∈ typicalOrders.store.factRecords 1 ∧
    customerRegion ∈ typicalOrders.store.dimensionsOn 1 ∧
    (newMapping shopColumns typicalOrders.store (orderAmount, customerRegion)).isSome ∧
    ∃ x, autoMapPairs ⟨1, none⟩ ⟨typicalOrders, {}⟩ = (.error x, ⟨typicalOrders, {}⟩) ∧
      typicalOrders.store.storedMappings = [] := by
  have hrows : typicalOrders.store.factRecords 1 =
      [(1, FactRow.read ⟨1, 1, "Revenue", "orders", "amount", "sum"⟩),
        (2, FactRow.read ⟨2, 1, "Typical", "orders", "amount", "mode"⟩)] := by
    show (sortById FactRow.id [_, _]).map _ = _
    rw [sortById_of_ascending (by simp)]
    rfl
  have hread : typicalOrders.store.factsOn 1 =
      .error (.invalid [⟨[.key "aggregate_function"], .enumeration⟩]) := by
    rw [factsOn_eq, hrows]
    rfl
  refine ⟨⟨by decide, by decide⟩, .fresh ⟨⟨rfl, fun _ => rfl, fun _ _ => rfl⟩, rfl, rfl⟩, ?_, ?_,
    ?_, _, autoMapPairs_unread hread, rfl⟩
  · rw [hrows]
    exact List.mem_cons_self
  · show customerRegion ∈ sortById Dimension.id [customerRegion]
    rw [sortById_of_ascending (by simp)]
    exact List.mem_cons_self
  · decide +kernel

end MetricLayer.Service
