import MetricLayer.Proofs.Service.Ownership
import MetricLayer.Proofs.Service.Pools

/-!
# What a request does to the world

A request may take or make the pool of its connection, ask the target database for its catalog
and store mappings. If it is a query, a report or a link between reports, it may then send one
statement, the one that was compiled for it, and sends nothing after that. Every connection that
it takes from a pool is given back.
-/
namespace MetricLayer.Service
open Store

variable {α β : Type}

/-! ### Worlds before and after -/

/-- What is sent through a pool besides queries: its first statement, those that set the schema of
new connections, and those for the catalog of this schema. -/
inductive Routine (p : Pool) : Statement → Prop
  | probe : Routine p .probe
  | session {schema : String} (own : p.schema = some schema) : Routine p (.session schema)
  | columns (table : String) : Routine p (.columns p.schema table)
  | tables : Routine p (.tables p.schema)

/-- A pool is made for the connection that a store has under an id, in the dialect of that
connection. -/
structure MadeFor (s : Store) (id : Int) (p : Pool) : Prop where
  row : s.connection? id = some p.connection
  dialect : Dialect.ofName p.connection.dialect = .ok p.dialect

/-- At some time between two worlds a new connection is opened. -/
def Opens (w w' : World) : Prop :=
  ∃ tick, w.tick ≤ tick ∧ tick < w'.tick ∧ 0 < w.target.opened tick

/-- The statement of an event is no query. It is sent through the pool of a connection, or
through one that was tried for it. Schemas are set on new connections only. -/
structure Asks (id : Int) (w w' : World) (e : Event) (p : Pool) : Prop where
  pool : pool? w' id = some p ∨ MadeFor w.store id p
  engine : e.engine = p.engine
  dialect : e.dialect = p.dialect
  statement : Routine p e.statement
  opened : ∀ schema, e.statement = .session schema → Opens w w'

/-- What a request keeps. At most the pool of one connection is added. -/
structure Keeps (id : Int) (w w' : World) : Prop where
  settings : w'.settings = w.settings
  guarded : w'.guarded = w.guarded
  target : w'.target = w.target
  ticks : w.tick ≤ w'.tick
  leases : w'.leases = w.leases
  connections : w'.store.connection? = w.store.connection?
  pools : w'.pools = w.pools ∨
    pool? w id = none ∧ ∃ p, MadeFor w.store id p ∧ w'.pools = w.pools ++ [(id, p)]

/-- What a request does before it sends a query: what it sends are no queries. -/
structure Goes (id : Int) (w w' : World) : Prop extends Keeps id w w' where
  sent : ∃ new, w'.sent = w.sent ++ new ∧ ∀ e ∈ new, ∃ p, Asks id w w' e p

lemma pool?_append {w w' : World} {id : Int} {p : Pool} (hnone : pool? w id = none)
    (h : w'.pools = w.pools ++ [(id, p)]) : pool? w' id = some p := by
  have hfind : w.pools.find? (·.1 == id) = none := Option.map_eq_none_iff.mp hnone
  rw [pool?, h, List.find?_append, hfind]
  simp

lemma MadeFor.congr {s s' : Store} {id : Int} {p : Pool} (h : MadeFor s id p)
    (hrows : s'.connection? = s.connection?) : MadeFor s' id p :=
  ⟨by rw [hrows]; exact h.row, h.dialect⟩

namespace Keeps

variable {id : Int} {w w' w'' : World}

/-- A pool that is there stays there. -/
lemma pool? {p : Pool} (h : Keeps id w w') (hp : Service.pool? w id = some p) :
    Service.pool? w' id = some p := by
  rcases h.pools with hpools | ⟨hnone, -⟩
  · rw [Service.pool?, hpools]
    exact hp
  · cases hnone.symm.trans hp

/-- A pool that is there was there before, or was made for the connection of its id. -/
lemma pool_cases {k : Int} {p : Pool} (h : Keeps id w w') (hp : Service.pool? w' k = some p) :
    Service.pool? w k = some p ∨ Service.pool? w k = none ∧ MadeFor w.store k p := by
  rcases h.pools with hsame | ⟨hnone, q, hmade, hnew⟩
  · rw [Service.pool?, hsame] at hp
    exact .inl hp
  · by_cases hk : k = id
    · subst hk
      obtain rfl := Option.some.inj ((pool?_append hnone hnew).symm.trans hp)
      exact .inr ⟨hnone, hmade⟩
    · rw [Service.pool?, hnew, List.find?_append] at hp
      have hlast : [(id, q)].find? (·.1 == k) = none := by simp [Ne.symm hk]
      rw [hlast, Option.or_none] at hp
      exact .inl hp

theorem trans (h : Keeps id w w') (h' : Keeps id w' w'') : Keeps id w w'' where
  settings := h'.settings.trans h.settings
  guarded := h'.guarded.trans h.guarded
  target := h'.target.trans h.target
  ticks := h.ticks.trans h'.ticks
  leases := h'.leases.trans h.leases
  connections := h'.connections.trans h.connections
  pools := by
    rcases h'.pools with hsame | ⟨hnone, p, hmade, hnew⟩
    · rw [hsame]
      exact h.pools
    · rcases h.pools with hpools | ⟨_, q, _, hpools⟩
      · refine .inr ⟨?_, p, hmade.congr h.connections.symm, by rw [hnew, hpools]⟩
        rw [Service.pool?, ← hpools]
        exact hnone
      · cases hnone.symm.trans (pool?_append ‹_› hpools)

end Keeps

namespace Opens

variable {w w' w'' : World}

lemma mono_right (h : Opens w w') (hticks : w'.tick ≤ w''.tick) : Opens w w'' := by
  obtain ⟨tick, hle, hlt, hopened⟩ := h
  exact ⟨tick, hle, hlt.trans_le hticks, hopened⟩

lemma mono_left (h : Opens w' w'') (htarget : w'.target = w.target) (hticks : w.tick ≤ w'.tick) :
    Opens w w'' := by
  obtain ⟨tick, hle, hlt, hopened⟩ := h
  exact ⟨tick, hticks.trans hle, hlt, htarget ▸ hopened⟩

end Opens

namespace Goes

variable {id : Int} {w w' w'' : World}

theorem refl (id : Int) (w : World) : Goes id w w where
  settings := rfl
  guarded := rfl
  target := rfl
  ticks := le_rfl
  leases := rfl
  connections := rfl
  pools := .inl rfl
  sent := ⟨[], by simp, by simp⟩

theorem trans (h : Goes id w w') (h' : Goes id w' w'') : Goes id w w'' where
  toKeeps := h.toKeeps.trans h'.toKeeps
  sent := by
    obtain ⟨new, hnew, hasks⟩ := h.sent
    obtain ⟨more, hmore, hasks'⟩ := h'.sent
    refine ⟨new ++ more, by rw [hmore, hnew, List.append_assoc], fun e he => ?_⟩
    rcases List.mem_append.mp he with he | he
    · obtain ⟨p, hp⟩ := hasks e he
      exact ⟨p, hp.pool.imp_left h'.toKeeps.pool?, hp.engine, hp.dialect, hp.statement,
        fun schema hs => (hp.opened schema hs).mono_right h'.ticks⟩
    · obtain ⟨p, hp⟩ := hasks' e he
      exact ⟨p, hp.pool.imp_right (·.congr h.connections.symm), hp.engine, hp.dialect,
        hp.statement, fun schema hs => (hp.opened schema hs).mono_left h.target h.ticks⟩

/-- Time passes. -/
lemma of_tick (id : Int) (w : World) (n : Nat) : Goes id w { w with tick := w.tick + n } where
  settings := rfl
  guarded := rfl
  target := rfl
  ticks := Nat.le_add_right ..
  leases := rfl
  connections := rfl
  pools := .inl rfl
  sent := ⟨[], by simp, by simp⟩

/-- The engines that there are change. -/
lemma of_engines (h : Goes id w w') (engines : Nat) (disposed : List Nat) :
    Goes id w { w' with engines := engines, disposed := disposed } where
  settings := h.settings
  guarded := h.guarded
  target := h.target
  ticks := h.ticks
  leases := h.leases
  connections := h.connections
  pools := h.pools
  sent := by
    obtain ⟨new, hnew, hasks⟩ := h.sent
    refine ⟨new, hnew, fun e he => ?_⟩
    obtain ⟨p, hp⟩ := hasks e he
    exact ⟨p, hp.pool, hp.engine, hp.dialect, hp.statement, hp.opened⟩

end Goes

/-! ### Steps of the service -/

/-- Whatever becomes of a step, it does only what a request may do before it sends a query. -/
def Moves (id : Int) (x : ServiceM α) : Prop := ∀ w, Goes id w (x w).2

namespace Moves

variable {id : Int} {x : ServiceM α}

theorem bind {f : α → ServiceM β} (hx : Moves id x) (hf : ∀ a, Moves id (f a)) :
    Moves id (x >>= f) := by
  intro w
  rw [run_bind]
  cases (x w).1 with
  | error e => exact hx w
  | ok a => exact (hx w).trans (hf a _)

theorem still (h : Still x) : Moves id x := by
  intro w
  rw [h w]
  exact .refl id w

theorem lift (r : Except Fault α) : Moves id (Service.lift r) := still fun _ => rfl

theorem view (f : World → α) : Moves id (Service.view f) := still fun _ => rfl

end Moves

section
variable {id : Int} {user : Option Int} {w w' : World} {c : Connection} {p : Pool}

/-- A request is given the connection that the store has, or the connection is unknown or belongs
to another user. -/
lemma connectionFor_cases (id : Int) (user : Option Int) (w : World) :
    (∃ c, w.store.connection? id = some c ∧ (connectionFor id user w).1 = .ok c) ∨
    ∃ f, (f = .unknownConnection id ∨ f = .unauthorizedConnection id) ∧
      (connectionFor id user w).1 = .error (.failure f) := by
  have hfound : view (·.store.connection? id) w = (.ok (w.store.connection? id), w) := rfl
  unfold connectionFor
  rw [run_bind_ok hfound]
  cases hc : w.store.connection? id with
  | none => exact .inr ⟨_, .inl rfl, rfl⟩
  | some c =>
    cases user with
    | none => exact .inl ⟨c, rfl, rfl⟩
    | some u =>
      cases howner : c.ownerId with
      | none =>
        simp only [howner]
        exact .inl ⟨c, rfl, rfl⟩
      | some owner =>
        simp only [howner]
        by_cases hsame : (owner == u) = true
        · rw [if_pos hsame]
          exact .inl ⟨c, rfl, rfl⟩
        · rw [if_neg hsame]
          exact .inr ⟨_, .inr rfl, rfl⟩

lemma connectionFor_ok (h : (connectionFor id user w).1 = .ok c) :
    w.store.connection? id = some c := by
  rcases connectionFor_cases id user w with ⟨found, hfound, hrun⟩ | ⟨f, -, hrun⟩
  · obtain rfl := Except.ok.inj (hrun.symm.trans h)
    exact hfound
  · cases hrun.symm.trans h

/-- The statements of new connections set the default schema. -/
lemma mem_sessions {engine opened : Nat} {c : Connection} {d : Dialect} {e : Event}
    (h : e ∈ sessions engine c d opened) :
    ∃ schema, c.selectedDb = some schema ∧ 0 < opened ∧ e = ⟨engine, d, .session schema⟩ := by
  unfold sessions at h
  split at h
  · cases h
  · rename_i schema hschema
    obtain ⟨hopened, he⟩ := List.mem_replicate.mp h
    exact ⟨schema, (Option.filter_eq_some_iff.mp hschema).1, Nat.pos_of_ne_zero hopened, he⟩

namespace Goes

/-- A connection is taken from a pool, or from one that is tried. -/
lemma taken (hp : Service.pool? w id = some p ∨ MadeFor w.store id p) :
    Goes id w (w.taken p.engine p.connection p.dialect) where
  settings := rfl
  guarded := rfl
  target := rfl
  ticks := Nat.le_add_right ..
  leases := rfl
  connections := rfl
  pools := .inl rfl
  sent := by
    refine ⟨_, rfl, fun e he => ?_⟩
    obtain ⟨schema, hschema, hopened, rfl⟩ := mem_sessions he
    exact ⟨p, hp, rfl, rfl, .session hschema,
      fun _ _ => ⟨w.tick, le_rfl, Nat.lt_add_one _, hopened⟩⟩

/-- A statement that is no query is sent and answered. -/
lemma exchanged {s : Statement} (hp : Service.pool? w id = some p ∨ MadeFor w.store id p)
    (hs : Routine p s) (hne : ∀ schema, s ≠ .session schema) :
    Goes id w (w.exchanged ⟨p.engine, p.dialect, s⟩) where
  settings := rfl
  guarded := rfl
  target := rfl
  ticks := Nat.le_add_right ..
  leases := rfl
  connections := rfl
  pools := .inl rfl
  sent := by
    refine ⟨_, rfl, fun e he => ?_⟩
    obtain rfl := List.mem_singleton.mp he
    exact ⟨p, hp, rfl, rfl, hs, fun schema h => absurd h (hne schema)⟩

/-- A pool is put under its id. -/
lemma registered (h : Goes id w w') (hpools : w'.pools = w.pools)
    (hnone : Service.pool? w id = none) (hmade : MadeFor w.store id p) :
    Goes id w { w' with pools := w.pools ++ [(id, p)] } where
  settings := h.settings
  guarded := h.guarded
  target := h.target
  ticks := h.ticks
  leases := h.leases
  connections := h.connections
  pools := .inr ⟨hnone, p, hmade, rfl⟩
  sent := by
    obtain ⟨new, hnew, hasks⟩ := h.sent
    refine ⟨new, hnew, fun e he => ?_⟩
    obtain ⟨q, hq⟩ := hasks e he
    have hmade : MadeFor w.store id q := by
      refine hq.pool.resolve_left fun hpool => ?_
      rw [Service.pool?, hpools] at hpool
      cases hnone.symm.trans hpool
    exact ⟨q, .inr hmade, hq.engine, hq.dialect, hq.statement, hq.opened⟩

end Goes

/-- An engine that is tried for a connection sends only what a pool sends. -/
lemma goes_tried {d : Dialect} (hmade : MadeFor w.store id ⟨c, w.engines, d⟩) :
    Goes id w (w.tried c d) :=
  ((Goes.of_tick id w 1).of_engines (w.engines + 1) w.disposed).trans
    (.taken (p := ⟨c, w.engines, d⟩) (.inr hmade))

lemma goes_probed {d : Dialect} (hmade : MadeFor w.store id ⟨c, w.engines, d⟩) :
    Goes id w ((w.tried c d).exchanged ⟨w.engines, d, .probe⟩) :=
  (goes_tried hmade).trans
    (.exchanged (p := ⟨c, w.engines, d⟩) (.inr hmade) .probe fun _ h => by cases h)

/-- A pool is made for the connection of its id. -/
lemma Made.goes {r : Except Fault Pool} (h : Made id c w r w')
    (hrow : w.store.connection? id = some c) (hnone : pool? w id = none) : Goes id w w' := by
  cases h with
  | unsupported _ => exact .refl id w
  | unbuilt _ _ => exact .of_tick id w 1
  | unopened hdialect _ _ => exact (goes_tried ⟨hrow, hdialect⟩).of_engines _ _
  | unanswered hdialect _ _ _ => exact (goes_probed ⟨hrow, hdialect⟩).of_engines _ _
  | pooled hdialect _ _ _ =>
    exact (goes_probed ⟨hrow, hdialect⟩).registered rfl hnone ⟨hrow, hdialect⟩

/-- A pool is taken or made. -/
theorem Moves.acquire (id : Int) (user : Option Int) : Moves id (Service.acquire id user) := by
  intro w
  rcases acquire_cases id user w with
    ⟨x, _, hrun⟩ | ⟨c, hc, ⟨p, _, hrun⟩ | ⟨hnone, r, w', hrun, hmade⟩⟩
  · rw [hrun]
    exact .refl id w
  · rw [hrun]
    exact .refl id w
  · rw [hrun]
    exact hmade.goes (connectionFor_ok hc) hnone

/-- A pool that was taken is kept. -/
lemma pool?_acquire (h : acquire id user w = (.ok p, w')) : pool? w' id = some p := by
  obtain ⟨c, -, ⟨hpool, rfl⟩ | ⟨hnone, hmade⟩⟩ := acquire_ok h
  · exact hpool
  · cases hmade with
    | pooled _ _ _ _ => exact pool?_append hnone rfl

end

/-! ### Statements -/

/-- A statement that is sent on a connection of a pool: the connection is taken, the statement is
sent and answered, and the connection is given back. -/
lemma lease_sends (p : Pool) (s : Statement) (answer : Target → Nat → β) {k : β → ServiceM α}
    {f : β → Except Fault α} (hk : ∀ r w, k r w = (f r, w)) (w : World) :
    lease p (send p.engine p.dialect s >>= fun _ => ask answer >>= k) w =
      match w.target.connect w.tick with
      | some e => (.error (leaseFault p.connection.id e),
          w.taken p.engine p.connection p.dialect)
      | none => (f (answer w.target (w.tick + 1)),
          (w.taken p.engine p.connection p.dialect).exchanged ⟨p.engine, p.dialect, s⟩) := by
  have hconnect : checkOut p.engine p.connection p.dialect w =
      (.ok (w.target.connect w.tick), w.taken p.engine p.connection p.dialect) := rfl
  unfold lease
  rw [run_bind_ok hconnect]
  cases w.target.connect w.tick with
  | some e => rfl
  | none => exact run_holding (hk _ _) rfl

section
variable {id : Int} {w : World} {p : Pool}

/-- A catalog query on the pool of a connection. -/
lemma Goes.catalogQuery (hp : Service.pool? w id = some p) (table : Option String)
    {s : Statement} (hs : Routine p s) (hne : ∀ schema, s ≠ .session schema)
    (answer : Target → Nat → Except DatabaseError (List String)) :
    Goes id w (Service.catalogQuery p table s answer w).2 := by
  have hadapt : ∀ x : ServiceM (List String),
      (ExceptT.adapt (catalogFault table) x w).2 = (x w).2 := fun _ => rfl
  unfold Service.catalogQuery
  rw [hadapt, lease_sends p s answer (f := fun r => r.mapError .database)
    fun r _ => by cases r <;> rfl]
  cases w.target.connect w.tick with
  | some e => exact .taken (.inl hp)
  | none => exact (Goes.taken (.inl hp)).trans (.exchanged (.inl hp) hs hne)

end

/-! ### Lookups -/

/-- The pool that a session remembers is the pool of its connection. -/
def Sound (a : Asker) (s : Session) : Prop :=
  ∀ p, s.memo.pool = some p → pool? s.world a.connectionId = some p

/-- A step with lookups goes on from a session as a request may. -/
structure LooksAt (a : Asker) (x : LookupM α) (s : Session) : Prop where
  sound : Sound a (x s).2
  goes : Goes a.connectionId s.world (x s).2.world

/-- Whatever becomes of a step with lookups, it does only what a request may do before it sends
a query. -/
def Looks (a : Asker) (x : LookupM α) : Prop := ∀ s, Sound a s → LooksAt a x s

namespace Looks

variable {a : Asker} {x : LookupM α}

theorem bind_at {f : α → LookupM β} {s : Session} (hx : LooksAt a x s)
    (hf : ∀ r, (x s).1 = .ok r → LooksAt a (f r) (x s).2) : LooksAt a (x >>= f) s := by
  have hrun := run_bind x f s
  cases hr : (x s).1 with
  | error e =>
    rw [hr] at hrun
    exact ⟨hrun ▸ hx.sound, hrun ▸ hx.goes⟩
  | ok r =>
    rw [hr] at hrun
    obtain ⟨hsound, hgoes⟩ := hf r hr
    exact ⟨hrun ▸ hsound, hrun ▸ hx.goes.trans hgoes⟩

theorem bind {f : α → LookupM β} (hx : Looks a x) (hf : ∀ r, Looks a (f r)) :
    Looks a (x >>= f) :=
  fun s hs => bind_at (hx s hs) fun r _ => hf r _ (hx s hs).sound

theorem pure (r : α) : Looks a (Pure.pure r) := fun s hs => ⟨hs, .refl _ s.world⟩

theorem outcome (hx : Looks a x) : Looks a (Service.outcome x) :=
  fun s hs => ⟨(hx s hs).sound, (hx s hs).goes⟩

theorem throw (e : Fault) : Looks a (MonadExcept.throw e : LookupM α) :=
  fun s hs => ⟨hs, .refl _ s.world⟩

theorem remembered (f : Memo → α) : Looks a (Service.remembered f) :=
  fun s hs => ⟨hs, .refl _ s.world⟩

theorem remember {f : Memo → Memo} (hf : ∀ m, (f m).pool = m.pool) :
    Looks a (Service.remember f) :=
  fun s hs => ⟨fun p hp => hs p ((hf s.memo).symm.trans hp), .refl _ s.world⟩

theorem within_at {x : ServiceM α} {s : Session} (hs : Sound a s)
    (hx : Goes a.connectionId s.world (x s.world).2) : LooksAt a (Service.within x) s :=
  ⟨fun p hp => hx.toKeeps.pool? (hs p hp), hx⟩

theorem within {x : ServiceM α} (hx : Moves a.connectionId x) : Looks a (Service.within x) :=
  fun s hs => within_at hs (hx s.world)

theorem lookupPool (a : Asker) : Looks a (Service.lookupPool a) := by
  refine .bind (remembered _) fun known => ?_
  cases known with
  | some p => exact .pure p
  | none =>
    intro s hs
    refine bind_at (within (.acquire _ _) s hs) fun p hp => ?_
    have hacquired : Service.pool? (Service.within (acquire a.connectionId a.user) s).2.world
        a.connectionId = some p := pool?_acquire (Prod.ext hp rfl)
    -- What is remembered from here on is the pool that was acquired.
    refine bind_at ⟨fun q hq => ?_, .refl _ _⟩ fun _ _ => ⟨fun q hq => ?_, .refl _ _⟩
    · exact hacquired.trans hq
    · exact hacquired.trans hq

/-- The pool that is given is the one that is remembered. -/
lemma remembered_lookupPool {p : Pool} {s : Session} (h : (Service.lookupPool a s).1 = .ok p) :
    (Service.lookupPool a s).2.memo.pool = some p := by
  have hfound : Service.remembered (·.pool) s = (.ok s.memo.pool, s) := rfl
  unfold Service.lookupPool at h ⊢
  rw [run_bind_ok hfound] at h ⊢
  cases hknown : s.memo.pool with
  | some q =>
    rw [hknown] at h
    obtain rfl := Except.ok.inj h
    exact hknown
  | none =>
    rw [hknown] at h
    obtain ⟨q, s₁, hq, h⟩ := run_bind_inv h
    obtain rfl := Except.ok.inj h
    dsimp only
    rw [run_bind_ok hq]
    rfl

/-- A step that uses the pool of the request. -/
theorem pooled {f : Pool → LookupM α}
    (hf : ∀ p s, Sound a s → Service.pool? s.world a.connectionId = some p → LooksAt a (f p) s) :
    Looks a (Service.lookupPool a >>= f) := by
  intro s hs
  have hlooks := lookupPool a s hs
  exact bind_at hlooks fun p hp =>
    hf p _ hlooks.sound (hlooks.sound p (remembered_lookupPool hp))

theorem columns (a : Asker) (t : String) : Looks a (Service.columns a t) := by
  refine .bind (remembered _) fun known => ?_
  cases known with
  | some e => exact .pure e.2
  | none =>
    refine .pooled fun p s hs hp => ?_
    have hquery := within_at hs (.catalogQuery hp (some t) (.columns t) (fun _ h => by cases h)
      fun target tick => target.columns tick p.schema t)
    refine bind_at hquery fun names _ => ?_
    have hrest : Looks a (do
        Service.remember fun m => { m with columns := m.columns ++ [(t, names)] }
        return names) := .bind (remember fun _ => rfl) fun _ => .pure names
    exact hrest _ hquery.sound

theorem columnsBegun (a : Asker) (ts : List String) : Looks a (Service.columnsBegun a ts) := by
  induction ts with
  | nil => exact .pure ()
  | cons t ts ih => exact .bind (columns a t).outcome fun _ => ih

theorem columnsOfEach (a : Asker) (ts : List String) : Looks a (Service.columnsOfEach a ts) := by
  induction ts with
  | nil => exact .pure []
  | cons t ts ih =>
    refine .bind (columns a t).outcome fun r => ?_
    cases r with
    | ok names => exact .bind ih fun rest => .pure _
    | error e =>
      exact .bind (within (.view _)) fun begun => .bind (columnsBegun a _) fun _ => .throw e

theorem columnsFor (a : Asker) (ts : List String) : Looks a (Service.columnsFor a ts) := by
  unfold Service.columnsFor
  split
  · exact .pure []
  · exact .bind (columns a _) fun names => .pure _
  · exact .bind (lookupPool a) fun _ => columnsOfEach a _

theorem listTables (a : Asker) : Looks a (Service.listTables a) :=
  .pooled fun _ _ hs hp => within_at hs (.catalogQuery hp _ .tables (fun _ h => by cases h) _)

/-- Only mappings are stored. -/
theorem storeMappings (a : Asker) (xs : List Mapping) :
    Looks a (Service.within (Service.storeMappings xs)) := by
  refine .within fun w => ?_
  obtain ⟨ms, hms⟩ := exists_addMappings w.store xs
  have hstore : (Service.storeMappings xs w).2.store = w.store.withMappings ms := hms
  have hrows : (w.store.withMappings ms).connection? = w.store.connection? := by
    cases w.store <;> rfl
  exact ⟨⟨rfl, rfl, rfl, le_rfl, rfl, by rw [hstore, hrows], .inl rfl⟩, [],
    (List.append_nil _).symm, by simp⟩

theorem mapPair (a : Asker) (f : Fact) (d : Dimension) : Looks a (Service.mapPair a f d) := by
  refine .bind (.bind (columns a d.table) fun names => ?_) fun inferred => ?_
  · split
    · exact .pure none
    · exact .bind (columns a f.table) fun _ => .pure _
  · cases inferred with
    | none => exact .pure []
    | some x => exact storeMappings a [x]

theorem mapPairs (a : Asker) (pairs : List (Fact × Dimension)) (existing : List (Int × Int))
    (r : AutoMapResult) : Looks a (Service.mapPairs a existing r pairs) := by
  induction pairs generalizing existing r with
  | nil => exact .pure r
  | cons e pairs ih =>
    rw [Service.mapPairs]
    split
    · exact ih existing _
    · refine .bind (mapPair a e.1 e.2).outcome fun outcome => ?_
      cases outcome with
      | ok created =>
        cases created with
        | nil => exact ih existing r
        | cons c created => exact ih _ _
      | error x =>
        dsimp only
        cases pairFailure? x with
        | none => exact .throw x
        | some m => exact ih existing _

theorem autoMapPairs (a : Asker) : Looks a (Service.autoMapPairs a) := by
  refine .bind (within (.view _)) fun store => .bind (within (.lift _)) fun fs => ?_
  dsimp only
  split
  · exact .pure _
  · refine .bind (columnsFor a _).outcome fun outcome => ?_
    cases outcome with
    | ok columns => exact mapPairs a _ _ _
    | error x =>
      dsimp only
      split
      · exact .throw x
      · exact mapPairs a _ _ _

/-- Lookups that start without memory. -/
theorem fresh (hx : Looks a x) : Moves a.connectionId (freshLookups x) :=
  fun w => (hx ⟨w, {}⟩ fun _ hp => by cases hp).goes

end Looks
end MetricLayer.Service
