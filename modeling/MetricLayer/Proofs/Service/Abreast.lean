import MetricLayer.Proofs.Service.AutoMap
import MetricLayer.Proofs.Store.Held

/-!
# Two stores side by side

A step that only reads what two stores have in common gives the same result with either of
them. So lookups run alike beside a store in memory and beside tables that hold the same
content, and mappings are inferred alike: what is stored in one is stored in the other, under
the same ids.
-/
namespace MetricLayer.Service
open Store

variable {α β : Type}

/-! ### Steps of the service -/

/-- With one of two stores in the place of the other, a step gives the same result and leaves the
same world, but for the store, which stays as it is. -/
def Alike (s s' : Store) (x : ServiceM α) : Prop :=
  ∀ w, w.store = s →
    x { w with store := s' } = ((x w).1, { (x w).2 with store := s' }) ∧ (x w).2.store = s

namespace Alike

variable {s s' : Store} {x : ServiceM α}

theorem bind {f : α → ServiceM β} (hx : Alike s s' x) (hf : ∀ a, Alike s s' (f a)) :
    Alike s s' (x >>= f) := by
  intro w hw
  obtain ⟨hrun, hstore⟩ := hx w hw
  rw [run_bind, hrun, run_bind]
  cases (x w).1 with
  | error e => exact ⟨rfl, hstore⟩
  | ok a => exact hf a (x w).2 hstore

theorem lift (r : Except Fault α) : Alike s s' (Service.lift r) := fun _ hw => ⟨rfl, hw⟩

theorem ask (answer : Target → Nat → α) : Alike s s' (Service.ask answer) :=
  fun _ hw => ⟨rfl, hw⟩

theorem checkOut (engine : Nat) (c : Connection) (d : Dialect) :
    Alike s s' (Service.checkOut engine c d) :=
  fun _ hw => ⟨rfl, hw⟩

theorem send (engine : Nat) (d : Dialect) (st : Statement) :
    Alike s s' (Service.send engine d st) :=
  fun _ hw => ⟨rfl, hw⟩

theorem holding (h : Alike s s' x) (engine : Nat) : Alike s s' (Service.holding engine x) := by
  intro w hw
  obtain ⟨hrun, hstore⟩ := h { w with leases := engine :: w.leases } hw
  unfold Service.holding
  dsimp only at hrun ⊢
  rw [hrun]
  exact ⟨rfl, hstore⟩

theorem adapt (h : Alike s s' x) (f : Fault → Fault) : Alike s s' (ExceptT.adapt f x) := by
  intro w hw
  obtain ⟨hrun, hstore⟩ := h w hw
  have hadapt : ∀ w, ExceptT.adapt f x w = ((x w).1.mapError f, (x w).2) := fun _ => rfl
  rw [hadapt, hadapt, hrun]
  exact ⟨rfl, hstore⟩

theorem view {f : World → α} (hf : ∀ w, w.store = s → f { w with store := s' } = f w) :
    Alike s s' (Service.view f) := by
  intro w hw
  have hview : ∀ w, Service.view f w = (.ok (f w), w) := fun _ => rfl
  rw [hview, hview, hf w hw]
  exact ⟨rfl, hw⟩

theorem connectionFor {id : Int} (h : s'.connection? id = s.connection? id)
    (user : Option Int) : Alike s s' (Service.connectionFor id user) := by
  refine .bind (view fun w hw => by rw [hw]; exact h) fun found => ?_
  cases found with
  | none => exact lift (.error _)
  | some c =>
    dsimp only
    split
    · split
      · exact lift (.ok _)
      · exact lift (.error _)
    · exact lift (.ok _)

theorem createPool (c : Connection) : Alike s s' (Service.createPool c) := by
  refine .bind (lift _) fun d => .bind (ask _) fun failed => ?_
  cases failed with
  | some e => exact lift (.error _)
  | none =>
    refine .bind (fun _ hw => ⟨rfl, hw⟩) fun engine => .bind ?_ fun failed => ?_
    · refine .bind (checkOut _ _ _) fun refused => ?_
      cases refused with
      | some e => exact lift (.ok _)
      | none => exact .holding (.bind (send _ _ _) fun _ => ask _) engine
    · cases failed with
      | none => exact lift (.ok _)
      | some e => exact .bind (fun _ hw => ⟨rfl, hw⟩) fun _ => lift (.error _)

/-- A pool is taken alike if both stores know its connection alike. -/
theorem acquire {id : Int} (h : s'.connection? id = s.connection? id) (user : Option Int) :
    Alike s s' (Service.acquire id user) := by
  refine .bind (connectionFor h user) fun c => .bind (fun _ hw => ⟨rfl, hw⟩) fun known => ?_
  cases known with
  | some p => exact lift (.ok _)
  | none =>
    exact .bind (createPool c) fun p => .bind (fun _ hw => ⟨rfl, hw⟩) fun _ => lift (.ok _)

theorem catalogQuery (p : Pool) (table : Option String) (st : Statement)
    (answer : Target → Nat → Except DatabaseError (List String)) :
    Alike s s' (Service.catalogQuery p table st answer) := by
  refine .adapt (.bind (checkOut _ _ _) fun refused => ?_) _
  cases refused with
  | some e => exact lift (.error _)
  | none =>
    refine .holding (.bind (send _ _ _) fun _ => .bind (ask _) fun names => ?_) _
    cases names with
    | ok names => exact lift (.ok _)
    | error e => exact lift (.error _)

end Alike

/-! ### Lookups -/

/-- Two sessions that differ in their stores only. The pool is taken, or both stores know the
connection alike. -/
structure Abreast (id : Int) (s s' : Store) (u v : Session) : Prop where
  store : u.world.store = s
  other : v = { u with world := { u.world with store := s' } }
  pool : u.memo.pool.isSome ∨ s'.connection? id = s.connection? id

/-- Sessions that differ in their stores only get the same result, and go on to do so. -/
def InStep (id : Int) (s s' : Store) (x : LookupM α) : Prop :=
  ∀ u v, Abreast id s s' u v → (x v).1 = (x u).1 ∧ Abreast id s s' (x u).2 (x v).2

namespace InStep

variable {id : Int} {s s' : Store} {x : LookupM α}

theorem bind {f : α → LookupM β} (hx : InStep id s s' x) (hf : ∀ a, InStep id s s' (f a)) :
    InStep id s s' (x >>= f) := by
  intro u v h
  obtain ⟨hresult, hafter⟩ := hx u v h
  rw [run_bind, run_bind, hresult]
  cases (x u).1 with
  | error e => exact ⟨rfl, hafter⟩
  | ok a => exact hf a _ _ hafter

theorem pure (a : α) : InStep id s s' (Pure.pure a) := fun _ _ h => ⟨rfl, h⟩

theorem throw (e : Fault) : InStep id s s' (MonadExcept.throw e : LookupM α) :=
  fun _ _ h => ⟨rfl, h⟩

theorem outcome (hx : InStep id s s' x) : InStep id s s' (Service.outcome x) := by
  intro u v h
  obtain ⟨hresult, hafter⟩ := hx u v h
  exact ⟨congrArg Except.ok hresult, hafter⟩

theorem within {x : ServiceM α} (hx : Alike s s' x) : InStep id s s' (Service.within x) := by
  rintro u v ⟨hstore, rfl, hpool⟩
  obtain ⟨hrun, hkept⟩ := hx u.world hstore
  have hwithin : ∀ u, Service.within x u = ((x u.world).1, { u with world := (x u.world).2 }) :=
    fun _ => rfl
  rw [hwithin, hwithin, hrun]
  exact ⟨rfl, hkept, rfl, hpool⟩

theorem remembered (f : Memo → α) : InStep id s s' (Service.remembered f) := by
  rintro u v ⟨hstore, rfl, hpool⟩
  exact ⟨rfl, hstore, rfl, hpool⟩

/-- Once a pool is remembered, one stays remembered. -/
theorem remember {f : Memo → Memo} (hf : ∀ m, m.pool.isSome → (f m).pool.isSome) :
    InStep id s s' (Service.remember f) := by
  rintro u v ⟨hstore, rfl, hpool⟩
  exact ⟨rfl, hstore, rfl, hpool.imp_left (hf u.memo)⟩

theorem lookupPool (a : Asker) : InStep a.connectionId s s' (Service.lookupPool a) := by
  intro u v h
  cases hp : u.memo.pool with
  | some p =>
    have hknown : ∀ u : Session, u.memo.pool = some p → Service.lookupPool a u = (.ok p, u) := by
      intro u hu
      have hfound : Service.remembered (·.pool) u = (.ok (some p), u) := by rw [← hu]; rfl
      exact run_bind_ok hfound
    have hv : v.memo.pool = some p := by rw [h.other]; exact hp
    rw [hknown u hp, hknown v hv]
    exact ⟨rfl, h⟩
  | none =>
    have hconnection : s'.connection? a.connectionId = s.connection? a.connectionId :=
      h.pool.resolve_left (by simp [hp])
    refine InStep.bind (remembered _) (fun known => ?_) u v h
    cases known with
    | some p => exact .pure p
    | none =>
      refine .bind (.within (.acquire hconnection a.user)) fun p => ?_
      exact .bind (remember fun _ _ => rfl) fun _ => .pure p

theorem columns (a : Asker) (t : String) : InStep a.connectionId s s' (Service.columns a t) := by
  refine .bind (remembered _) fun known => ?_
  cases known with
  | some e => exact .pure e.2
  | none =>
    refine .bind (lookupPool a) fun p => .bind (.within (.catalogQuery p _ _ _)) fun names => ?_
    exact .bind (remember fun _ hm => hm) fun _ => .pure names

theorem columnsBegun (a : Asker) (ts : List String) :
    InStep a.connectionId s s' (Service.columnsBegun a ts) := by
  induction ts with
  | nil => exact .pure ()
  | cons t ts ih => exact .bind (columns a t).outcome fun _ => ih

theorem columnsOfEach (a : Asker) (ts : List String) :
    InStep a.connectionId s s' (Service.columnsOfEach a ts) := by
  induction ts with
  | nil => exact .pure []
  | cons t ts ih =>
    refine .bind (columns a t).outcome fun r => ?_
    cases r with
    | ok names => exact .bind ih fun rest => .pure _
    | error e =>
      refine .bind (.within (.view fun _ _ => rfl)) fun begun => ?_
      exact .bind (columnsBegun a _) fun _ => .throw e

theorem columnsFor (a : Asker) (ts : List String) :
    InStep a.connectionId s s' (Service.columnsFor a ts) := by
  unfold Service.columnsFor
  split
  · exact .pure []
  · exact .bind (columns a _) fun names => .pure _
  · exact .bind (lookupPool a) fun _ => columnsOfEach a _

theorem inferMapping (a : Asker) (f : Fact) (d : Dimension) :
    InStep a.connectionId s s' (Service.inferMapping a f d) := by
  refine .bind (columns a d.table) fun names => ?_
  split
  · exact .pure none
  · exact .bind (columns a f.table) fun _ => .pure _

end InStep

/-! ### Inferred mappings -/

/-- Two sessions of an asker, one with a store in memory and one with tables that hold the same
content. -/
structure Twin (a : Asker) (m : Memory) (r : Relational) (u v : Session) : Prop where
  ordered : m.Ordered
  held : r.Holds m
  abreast : Abreast a.connectionId (.memory m) (.relational r) u v

section
variable {a : Asker} {m : Memory} {r : Relational} {u v : Session} {f : Fact} {d : Dimension}

/-- Sessions stay twins through lookups. -/
lemma Twin.inStep {x : LookupM α} (h : Twin a m r u v)
    (hx : InStep a.connectionId (.memory m) (.relational r) x) :
    (x v).1 = (x u).1 ∧ Twin a m r (x u).2 (x v).2 := by
  obtain ⟨hresult, hafter⟩ := hx u v h.abreast
  exact ⟨hresult, h.ordered, h.held, hafter⟩

/-- Twins are twins with no more mappings. -/
lemma Twin.more (h : Twin a m r u v) : ∃ ys, Twin a (m.withMore ys) (r.withMore ys) u v := by
  refine ⟨[], ?_⟩
  rwa [Memory.withMore_nil, Relational.withMore_nil]

/-- A mapping of a new pair is stored in both stores. -/
lemma Twin.storeMappings (h : Twin a m r u v) {x : Mapping}
    (hnew : ∀ y ∈ m.mappings, y.pair ≠ x.pair) :
    ∃ y, y.pair = x.pair ∧ (within (storeMappings [x]) u).1 = .ok [y] ∧
      (within (storeMappings [x]) v).1 = .ok [y] ∧
      Twin a (m.withMore [y]) (r.withMore [y]) (within (storeMappings [x]) u).2
        (within (storeMappings [x]) v).2 := by
  obtain ⟨hstore, rfl, hpool⟩ := h.abreast
  obtain ⟨y, hpair, hmemory, hrelational, hordered⟩ := h.held.addMappings h.ordered hnew
  have hrun : ∀ u, within (storeMappings [x]) u = ((u.world.store.addMappings [x]).1,
      { u with world := { u.world with store := (u.world.store.addMappings [x]).2 } }) :=
    fun _ => rfl
  rw [hrun, hrun, hstore, hmemory]
  dsimp only
  rw [hrelational]
  exact ⟨y, hpair, rfl, rfl, hordered, h.held.withMore [y], rfl, rfl, hpool⟩

lemma pair_of_inferMapping {x : Mapping} (h : (inferMapping a f d u).1 = .ok (some x)) :
    x.pair = (f.id, d.id) := by
  obtain ⟨names, u₁, _, h⟩ := run_bind_inv h
  split at h
  · cases Except.ok.inj h
  · obtain ⟨factNames, u₂, _, h⟩ := run_bind_inv h
    obtain ⟨c, _, rfl⟩ := Option.map_eq_some_iff.mp (Except.ok.inj h)
    rfl

/-- What becomes of one pair that is not mapped: nothing new is stored, or one mapping of it is
stored and reported. -/
lemma Twin.mapPair (h : Twin a m r u v) (hnew : ∀ y ∈ m.mappings, y.pair ≠ (f.id, d.id)) :
    (mapPair a f d v).1 = (mapPair a f d u).1 ∧
      ∃ ys, Twin a (m.withMore ys) (r.withMore ys) (mapPair a f d u).2 (mapPair a f d v).2 ∧
        (∀ y ∈ ys, y.pair = (f.id, d.id)) ∧ (ys = [] ∨ (mapPair a f d u).1 = .ok ys) := by
  obtain ⟨hresult, hafter⟩ := h.inStep (InStep.inferMapping a f d)
  have hkept : Twin a (m.withMore []) (r.withMore []) (inferMapping a f d u).2
      (inferMapping a f d v).2 := by
    rw [Memory.withMore_nil, Relational.withMore_nil]
    exact hafter
  unfold Service.mapPair
  rw [run_bind, run_bind, hresult]
  cases hx : (inferMapping a f d u).1 with
  | error e => exact ⟨rfl, [], hkept, by simp, .inl rfl⟩
  | ok inferred =>
    cases inferred with
    | none => exact ⟨rfl, [], hkept, by simp, .inl rfl⟩
    | some x =>
      have hpair : x.pair = (f.id, d.id) := pair_of_inferMapping hx
      obtain ⟨y, hy, hu, hv, hstored⟩ := hafter.storeMappings (x := x) (hpair ▸ hnew)
      refine ⟨hv.trans hu.symm, [y], hstored, ?_, .inr hu⟩
      intro z hz
      rw [List.mem_singleton.mp hz, hy, hpair]

/-- Of the given pairs, only those that are known to be mapped are mapped. -/
def KnownMapped (m : Memory) (existing : List (Int × Int)) (pairs : List (Fact × Dimension)) :
    Prop :=
  ∀ e ∈ pairs, idsOf e ∉ existing → ∀ y ∈ m.mappings, y.pair ≠ idsOf e

lemma KnownMapped.tail {e : Fact × Dimension} {pairs : List (Fact × Dimension)}
    {existing : List (Int × Int)} (h : KnownMapped m existing (e :: pairs)) :
    KnownMapped m existing pairs :=
  fun e he => h e (List.mem_cons_of_mem _ he)

/-- A pair that was mapped becomes known. -/
lemma KnownMapped.stored {pairs : List (Fact × Dimension)} {existing : List (Int × Int)}
    {ys : List Mapping} {pair : Int × Int} (h : KnownMapped m existing pairs)
    (hys : ∀ y ∈ ys, y.pair = pair) : KnownMapped (m.withMore ys) (pair :: existing) pairs := by
  intro e he hunknown y hy
  obtain ⟨hne, hunknown⟩ := not_or.mp (mt List.mem_cons.mpr hunknown)
  rcases List.mem_append.mp hy with hy | hy
  · exact h e he hunknown y hy
  · rw [hys y hy]
    exact Ne.symm hne

/-- Going through pairs has the same result for twins, which get the same mappings. -/
theorem Twin.mapPairs {pairs : List (Fact × Dimension)} {existing : List (Int × Int)}
    (h : Twin a m r u v) (result : AutoMapResult) (hknown : KnownMapped m existing pairs) :
    (mapPairs a existing result pairs v).1 = (mapPairs a existing result pairs u).1 ∧
      ∃ ys, Twin a (m.withMore ys) (r.withMore ys) (mapPairs a existing result pairs u).2
        (mapPairs a existing result pairs v).2 := by
  induction pairs generalizing existing result m r u v with
  | nil => exact ⟨rfl, h.more⟩
  | cons e pairs ih =>
    obtain ⟨f, d⟩ := e
    rw [Service.mapPairs]
    cases hsettled : existing.contains (f.id, d.id) || f.table == d.table with
    | true => exact ih h _ hknown.tail
    | false =>
      obtain ⟨hcontains, -⟩ := Bool.or_eq_false_iff.mp hsettled
      have hunknown : idsOf (f, d) ∉ existing := by simpa [idsOf] using hcontains
      have hnew : ∀ y ∈ m.mappings, y.pair ≠ (f.id, d.id) :=
        hknown (f, d) List.mem_cons_self hunknown
      obtain ⟨hresult, ys, htwin, hpairs, hstored⟩ := h.mapPair hnew
      simp only [Bool.false_eq_true, if_false]
      rw [run_bind_ok (run_outcome _ u), run_bind_ok (run_outcome _ v), hresult]
      -- Without a stored mapping, the stores are the same as before.
      have hkept : ys = [] →
          Twin a m r (Service.mapPair a f d u).2 (Service.mapPair a f d v).2 := by
        rintro rfl
        rwa [Memory.withMore_nil, Relational.withMore_nil] at htwin
      cases hr : (Service.mapPair a f d u).1 with
      | error e =>
        have hnone : ys = [] := hstored.resolve_right (by simp [hr])
        dsimp only
        cases pairFailure? e with
        | none => exact ⟨rfl, ys, htwin⟩
        | some message => exact ih (hkept hnone) _ hknown.tail
      | ok created =>
        cases created with
        | nil =>
          have hnone : ys = [] := hstored.elim id fun hys => by simpa [hr] using hys.symm
          exact ih (hkept hnone) _ hknown.tail
        | cons c created =>
          obtain ⟨hrun, zs, hafter⟩ := ih htwin { result with
            created := result.created ++ c :: created } (hknown.tail.stored hpairs)
          rw [Memory.withMore_append, Relational.withMore_append] at hafter
          exact ⟨hrun, ys ++ zs, hafter⟩

/-- The pairs of facts and dimensions are gone through, given those that are mapped. -/
def mapAll (a : Asker) (fs : List Fact) (ds : List Dimension) (existing : List (Int × Int)) :
    LookupM AutoMapResult := do
  if fs.isEmpty || ds.isEmpty then return {}
  match ← outcome (columnsFor a (tablesOf fs ds)) with
  | .error e => if !isLookupFailure e then throw e
  | .ok _ => pure ()
  mapPairs a existing {} (allPairs fs ds)

lemma autoMapPairs_eq {s : Store} {fs : List Fact} (hstore : u.world.store = s)
    (hfs : s.factsOn a.connectionId = .ok fs) :
    autoMapPairs a u = mapAll a fs (s.dimensionsOn a.connectionId)
      ((s.mappingsOf (fs.map (·.id)) (some ((s.dimensionsOn a.connectionId).map (·.id)))).map
        (·.pair)) u := by
  have hview : within (view (·.store)) u = (.ok s, u) := by rw [← hstore]; rfl
  have hlift : within (lift (s.factsOn a.connectionId)) u = (.ok fs, u) := by rw [hfs]; rfl
  unfold autoMapPairs
  rw [run_bind_ok hview, run_bind_ok hlift]
  rfl

lemma Twin.mapAll (h : Twin a m r u v) {fs : List Fact} {ds : List Dimension}
    {existing : List (Int × Int)}
    (hknown : KnownMapped m existing (allPairs fs ds)) :
    (mapAll a fs ds existing v).1 = (mapAll a fs ds existing u).1 ∧
      ∃ ys, Twin a (m.withMore ys) (r.withMore ys) (mapAll a fs ds existing u).2
        (mapAll a fs ds existing v).2 := by
  unfold Service.mapAll
  cases fs.isEmpty || ds.isEmpty with
  | true => exact ⟨rfl, h.more⟩
  | false =>
    obtain ⟨hresult, hafter⟩ := h.inStep (InStep.columnsFor a (tablesOf fs ds))
    simp only [Bool.false_eq_true, if_false]
    rw [run_bind_ok (run_outcome _ u), run_bind_ok (run_outcome _ v), hresult]
    cases (columnsFor a (tablesOf fs ds) u).1 with
    | ok columns => exact hafter.mapPairs {} hknown
    | error e =>
      dsimp only
      cases isLookupFailure e with
      | true => exact hafter.mapPairs {} hknown
      | false => exact ⟨rfl, hafter.more⟩

/-- The pairs of a connection are gone through alike by twins, whatever the lookups give. -/
theorem Twin.autoMapPairs (h : Twin a m r u v) :
    (autoMapPairs a v).1 = (autoMapPairs a u).1 ∧
      ∃ ys, Twin a (m.withMore ys) (r.withMore ys) (autoMapPairs a u).2 (autoMapPairs a v).2 := by
  have hstore : v.world.store = .relational r := by rw [h.abreast.other]
  have hfacts : (Store.relational r).factsOn a.connectionId = .ok (m.factsOn a.connectionId) :=
    (h.held.agree h.ordered a.connectionId).factsOn
  rw [autoMapPairs_eq hstore hfacts, autoMapPairs_eq h.abreast.store rfl,
    h.held.dimensionsOn h.ordered, h.held.mappingsOf h.ordered]
  refine h.mapAll fun e he hunknown => ?_
  rw [mem_existing he, Option.not_isSome_iff_eq_none, Join.mappingOf_eq_none_iff] at hunknown
  exact hunknown

end

end MetricLayer.Service
