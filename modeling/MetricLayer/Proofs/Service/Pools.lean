import Mathlib.Data.List.Nodup
import Mathlib.Data.List.Perm.Basic
import MetricLayer.Proofs.Service.Lookup

/-!
# Pools over whole histories

Pools are made, kept and disposed while the metadata change. Whatever happens, and whatever the
target database answers, each engine that was made and not disposed belongs to exactly one pool.
A pool that cannot be made leaves nothing behind, so the next request for it starts anew.
-/
namespace MetricLayer.Service

/-! ### One request for a pool -/

/-- The world once a statement is sent and answered. -/
def World.exchanged (w : World) (e : Event) : World := { w with
  tick := w.tick + 1
  sent := w.sent ++ [e] }

/-- The world in which a new engine has been asked for its first connection. -/
def World.tried (w : World) (c : Connection) (d : Dialect) : World :=
  { w with tick := w.tick + 1, engines := w.engines + 1 }.taken w.engines c d

/-- What becomes of making a pool for a connection. One engine is asked for; if it cannot be
connected or does not answer, it is disposed. -/
inductive Made (id : Int) (c : Connection) (w : World) : Except Fault Pool → World → Prop
  | unsupported {x : Fault} (hdialect : Dialect.ofName c.dialect = .error x) :
    Made id c w (.error x) w
  | unbuilt {d : Dialect} {e : DatabaseError} (hdialect : Dialect.ofName c.dialect = .ok d)
    (hbuild : w.target.build w.tick = some e) :
    Made id c w (.error (.database e)) { w with tick := w.tick + 1 }
  | unopened {d : Dialect} {e : DatabaseError} (hdialect : Dialect.ofName c.dialect = .ok d)
    (hbuild : w.target.build w.tick = none) (hconnect : w.target.connect (w.tick + 1) = some e) :
    Made id c w (.error (creationFault c.id e)) { w.tried c d with
      disposed := w.disposed ++ [w.engines] }
  | unanswered {d : Dialect} {e : DatabaseError} (hdialect : Dialect.ofName c.dialect = .ok d)
    (hbuild : w.target.build w.tick = none) (hconnect : w.target.connect (w.tick + 1) = none)
    (hprobe : w.target.probe (w.tick + 2) = some e) :
    Made id c w (.error (creationFault c.id e))
      { (w.tried c d).exchanged ⟨w.engines, d, .probe⟩ with
        disposed := w.disposed ++ [w.engines] }
  | pooled {d : Dialect} (hdialect : Dialect.ofName c.dialect = .ok d)
    (hbuild : w.target.build w.tick = none) (hconnect : w.target.connect (w.tick + 1) = none)
    (hprobe : w.target.probe (w.tick + 2) = none) :
    Made id c w (.ok ⟨c, w.engines, d⟩)
      { (w.tried c d).exchanged ⟨w.engines, d, .probe⟩ with
        pools := w.pools ++ [(id, ⟨c, w.engines, d⟩)] }

/-- What is done with a connection leaves no lease behind if it leaves those there were. -/
lemma run_holding {α : Type} {engine : Nat} {step : ServiceM α} {w w' : World}
    {r : Except Fault α}
    (h : step { w with leases := engine :: w.leases } =
      (r, { w' with leases := engine :: w.leases })) (hleases : w'.leases = w.leases) :
    holding engine step w = (r, w') := by
  unfold holding
  rw [h]
  simp [← hleases]

/-- A new engine is tried with a connection that is given back, and at most one statement. -/
lemma tryEngine_eq (engine : Nat) (c : Connection) (d : Dialect) (w : World) :
    tryEngine engine c d w =
      match w.target.connect w.tick with
      | some e => (.ok (some e), w.taken engine c d)
      | none => (.ok (w.target.probe (w.tick + 1)),
          (w.taken engine c d).exchanged ⟨engine, d, .probe⟩) := by
  have hconnect : checkOut engine c d w = (.ok (w.target.connect w.tick), w.taken engine c d) :=
    rfl
  unfold tryEngine
  rw [run_bind_ok hconnect]
  cases w.target.connect w.tick with
  | some e => rfl
  | none => exact run_holding rfl rfl

/-- Puts a pool that was made under an id. -/
def register (id : Int) (p : Pool) : ServiceM Pool := do
  change fun w => { w with pools := w.pools ++ [(id, p)] }
  return p

lemma made_createPool (id : Int) (c : Connection) (w : World) :
    ∃ r w', (createPool c >>= register id) w = (r, w') ∧ Made id c w r w' := by
  unfold createPool
  cases hd : Dialect.ofName c.dialect with
  | error x =>
    have hdialect : lift (.error x : Except Fault Dialect) w = (.error x, w) := rfl
    exact ⟨_, _, run_bind_error (run_bind_error hdialect), .unsupported hd⟩
  | ok d =>
    have hdialect : lift (.ok d : Except Fault Dialect) w = (.ok d, w) := rfl
    have hasked : ask (·.build) w =
        (.ok (w.target.build w.tick), { w with tick := w.tick + 1 }) := rfl
    rw [bind_assoc, run_bind_ok hdialect, bind_assoc, run_bind_ok hasked]
    cases hbuild : w.target.build w.tick with
    | some e => exact ⟨_, _, rfl, .unbuilt hd hbuild⟩
    | none =>
      have hengine : newEngine { w with tick := w.tick + 1 } =
          (.ok w.engines, { w with tick := w.tick + 1, engines := w.engines + 1 }) := rfl
      have htry := tryEngine_eq w.engines c d { w with
        tick := w.tick + 1
        engines := w.engines + 1 }
      dsimp only at htry ⊢
      rw [bind_assoc, run_bind_ok hengine, bind_assoc]
      cases hconnect : w.target.connect (w.tick + 1) with
      | some e =>
        rw [hconnect] at htry
        rw [run_bind_ok htry]
        exact ⟨_, _, rfl, .unopened hd hbuild hconnect⟩
      | none =>
        rw [hconnect] at htry
        rw [run_bind_ok htry]
        cases hprobe : w.target.probe (w.tick + 2) with
        | some e => exact ⟨_, _, rfl, .unanswered hd hbuild hconnect hprobe⟩
        | none => exact ⟨_, _, rfl, .pooled hd hbuild hconnect hprobe⟩

section
variable {id : Int} {user : Option Int} {w : World}

/-- A pool is asked for by a user who may use its connection. -/
lemma acquire_eq {c : Connection} (hc : (connectionFor id user w).1 = .ok c) :
    acquire id user w =
      match pool? w id with
      | some p => (.ok p, w)
      | none => (createPool c >>= register id) w := by
  have hconnection : connectionFor id user w = (.ok c, w) :=
    Prod.ext hc (Still.connectionFor _ _ w)
  have hpool : view (pool? · id) w = (.ok (pool? w id), w) := rfl
  unfold acquire
  rw [run_bind_ok hconnection, run_bind_ok hpool]
  cases pool? w id <;> rfl

/-- What becomes of a request for a pool: it is refused, answered with the pool that is there,
or a pool is made. -/
lemma acquire_cases (id : Int) (user : Option Int) (w : World) :
    (∃ x, (connectionFor id user w).1 = .error x ∧ acquire id user w = (.error x, w)) ∨
      ∃ c, (connectionFor id user w).1 = .ok c ∧
        ((∃ p, pool? w id = some p ∧ acquire id user w = (.ok p, w)) ∨
          (pool? w id = none ∧
            ∃ r w', acquire id user w = (r, w') ∧ Made id c w r w')) := by
  cases hc : (connectionFor id user w).1 with
  | error x =>
    have hconnection : connectionFor id user w = (.error x, w) :=
      Prod.ext hc (Still.connectionFor _ _ w)
    exact .inl ⟨x, rfl, run_bind_error hconnection⟩
  | ok c =>
    refine .inr ⟨c, rfl, ?_⟩
    rw [acquire_eq hc]
    cases pool? w id with
    | some p => exact .inl ⟨p, rfl, rfl⟩
    | none => exact .inr ⟨rfl, made_createPool id c w⟩

end

/-! ### Engines and pools -/

/-- The engines that were made are those that are disposed and those of the pools, each once,
and pools are told apart by their ids. -/
structure Tidy (w : World) : Prop where
  engines : (w.disposed ++ w.pools.map (·.2.engine)).Perm (List.range w.engines)
  ids : (w.pools.map (·.1)).Nodup

lemma not_mem_pools {w : World} {id : Int} (h : pool? w id = none) :
    id ∉ w.pools.map (·.1) := by
  intro hin
  obtain ⟨e, he, rfl⟩ := List.mem_map.mp hin
  have hfound := List.find?_eq_none.mp (Option.map_eq_none_iff.mp h) e he
  simp at hfound

/-- An engine that is made and disposed at once leaves no pool. -/
lemma perm_disposed {made : Nat} {disposed pooled : List Nat}
    (h : (disposed ++ pooled).Perm (List.range made)) :
    (disposed ++ [made] ++ pooled).Perm (List.range (made + 1)) := by
  rw [List.range_succ, List.append_assoc]
  calc disposed ++ ([made] ++ pooled)
      |>.Perm (disposed ++ (pooled ++ [made])) := List.perm_append_comm.append_left disposed
    _ |>.Perm (List.range made ++ [made]) := by
      rw [← List.append_assoc]
      exact h.append_right [made]

namespace Tidy

variable {w w' : World}

theorem made {id : Int} {c : Connection} {r : Except Fault Pool} (h : Tidy w)
    (hnone : pool? w id = none) (hmade : Made id c w r w') : Tidy w' := by
  cases hmade with
  | unsupported _ => exact h
  | unbuilt _ _ => exact ⟨h.engines, h.ids⟩
  | unopened _ _ _ => exact ⟨perm_disposed h.engines, h.ids⟩
  | unanswered _ _ _ _ => exact ⟨perm_disposed h.engines, h.ids⟩
  | @pooled d _ _ _ _ =>
    constructor
    · show (w.disposed ++ (w.pools ++ [(id, (⟨c, w.engines, d⟩ : Pool))]).map (·.2.engine)).Perm
        (List.range (w.engines + 1))
      rw [List.map_append, ← List.append_assoc, List.range_succ]
      exact h.engines.append_right [w.engines]
    · rw [List.map_append, List.map_singleton, ← List.concat_eq_append]
      exact h.ids.concat (not_mem_pools hnone)

theorem acquire (h : Tidy w) (id : Int) (user : Option Int) :
    Tidy (Service.acquire id user w).2 := by
  rcases acquire_cases id user w with
    ⟨x, _, hrun⟩ | ⟨c, _, ⟨p, _, hrun⟩ | ⟨hnone, r, w', hrun, hmade⟩⟩
  · rw [hrun]
    exact h
  · rw [hrun]
    exact h
  · rw [hrun]
    exact h.made hnone hmade

theorem dispose (h : Tidy w) : Tidy (Service.dispose w).2 := by
  constructor
  · have hall : ((Service.dispose w).2.disposed ++ []).Perm (List.range w.engines) := by
      rw [List.append_nil]
      exact h.engines
    exact hall
  · exact List.nodup_nil

theorem of_eq (h : Tidy w) (hpools : w'.pools = w.pools) (hengines : w'.engines = w.engines)
    (hdisposed : w'.disposed = w.disposed) : Tidy w' := by
  constructor
  · rw [hpools, hengines, hdisposed]
    exact h.engines
  · rw [hpools]
    exact h.ids

end Tidy

/-! ### Histories -/

/-- What happens to the pools: one is asked for, the metadata change, or all are disposed. -/
inductive PoolStep where
  | acquire (id : Int) (user : Option Int)
  | replace (s : Store)
  | dispose

/-- The world after a step. -/
def PoolStep.run (w : World) : PoolStep → World
  | acquire id user => (Service.acquire id user w).2
  | replace s => { w with store := s }
  | dispose => (Service.dispose w).2

/-- The world after a history. -/
def PoolStep.runAll (w : World) (steps : List PoolStep) : World := steps.foldl run w

/-- No engine was made yet. -/
structure Unused (w : World) : Prop where
  pools : w.pools = []
  engines : w.engines = 0
  disposed : w.disposed = []

namespace Tidy

variable {w : World}

lemma of_unused (h : Unused w) : Tidy w := by
  constructor
  · rw [h.pools, h.engines, h.disposed]
    exact List.Perm.nil
  · rw [h.pools]
    exact List.nodup_nil

theorem run (h : Tidy w) (step : PoolStep) : Tidy (step.run w) := by
  cases step with
  | acquire id user => exact h.acquire id user
  | replace s => exact h.of_eq rfl rfl rfl
  | dispose => exact h.dispose

theorem runAll (h : Tidy w) (steps : List PoolStep) : Tidy (PoolStep.runAll w steps) := by
  induction steps generalizing w with
  | nil => exact h
  | cons step steps ih => exact ih (h.run step)

lemma disposed_of_dispose (h : Tidy w) :
    ∀ n < w.engines, n ∈ (Service.dispose w).2.disposed :=
  fun _ hn => h.engines.mem_iff.mpr (List.mem_range.mpr hn)

end Tidy

/-- The engines that were made and are not disposed are those of the pools, one for each id. -/
structure Accounted (w : World) : Prop where
  live : ∀ n, n ∈ w.pools.map (·.2.engine) ↔ n < w.engines ∧ n ∉ w.disposed
  engines : (w.pools.map (·.2.engine)).Nodup
  ids : (w.pools.map (·.1)).Nodup

lemma Tidy.accounted {w : World} (h : Tidy w) : Accounted w := by
  have hnodup : (w.disposed ++ w.pools.map (·.2.engine)).Nodup :=
    h.engines.nodup_iff.mpr List.nodup_range
  obtain ⟨_, hpooled, hdisjoint⟩ := List.nodup_append.mp hnodup
  refine ⟨fun n => ⟨fun hn => ⟨?_, fun hin => hdisjoint n hin n hn rfl⟩, ?_⟩, hpooled, h.ids⟩
  · exact List.mem_range.mp (h.engines.mem_iff.mp (List.mem_append_right _ hn))
  · rintro ⟨hlt, hnot⟩
    have hin := h.engines.mem_iff.mpr (List.mem_range.mpr hlt)
    exact (List.mem_append.mp hin).resolve_left hnot

/-- A pool that cannot be made is not kept, and neither is its engine. -/
lemma Made.of_error {id : Int} {c : Connection} {w w' : World} {x : Fault}
    (h : Made id c w (.error x) w') :
    w'.pools = w.pools ∧ ∀ n, w.engines ≤ n → n < w'.engines → n ∈ w'.disposed := by
  cases h with
  | unsupported _ => exact ⟨rfl, fun n hle hlt => absurd hlt (Nat.not_lt.mpr hle)⟩
  | unbuilt _ _ => exact ⟨rfl, fun n hle hlt => absurd hlt (Nat.not_lt.mpr hle)⟩
  | unopened _ _ _ =>
    refine ⟨rfl, fun n hle hlt => ?_⟩
    rw [Nat.le_antisymm (Nat.le_of_lt_succ hlt) hle]
    exact List.mem_append_right _ (List.mem_singleton.mpr rfl)
  | unanswered _ _ _ _ =>
    refine ⟨rfl, fun n hle hlt => ?_⟩
    rw [Nat.le_antisymm (Nat.le_of_lt_succ hlt) hle]
    exact List.mem_append_right _ (List.mem_singleton.mpr rfl)

section
variable {id : Int} {user : Option Int} {w w' : World}

lemma acquire_error {x : Fault} (h : acquire id user w = (.error x, w')) :
    w'.pools = w.pools ∧ ∀ n, w.engines ≤ n → n < w'.engines → n ∈ w'.disposed := by
  rcases acquire_cases id user w with
    ⟨y, _, hrun⟩ | ⟨c, _, ⟨p, _, hrun⟩ | ⟨_, r, w₁, hrun, hmade⟩⟩
  · obtain ⟨-, rfl⟩ := Prod.mk.inj (hrun.symm.trans h)
    exact ⟨rfl, fun n hle hlt => absurd hlt (Nat.not_lt.mpr hle)⟩
  · exact absurd (Prod.mk.inj (hrun.symm.trans h)).1 (by simp)
  · obtain ⟨rfl, rfl⟩ := Prod.mk.inj (hrun.symm.trans h)
    exact hmade.of_error

lemma acquire_ok {p : Pool} (h : acquire id user w = (.ok p, w')) :
    ∃ c, (connectionFor id user w).1 = .ok c ∧
      ((pool? w id = some p ∧ w' = w) ∨ (pool? w id = none ∧ Made id c w (.ok p) w')) := by
  rcases acquire_cases id user w with
    ⟨y, _, hrun⟩ | ⟨c, hc, ⟨q, hpool, hrun⟩ | ⟨hnone, r, w₁, hrun, hmade⟩⟩
  · exact absurd (Prod.mk.inj (hrun.symm.trans h)).1 (by simp)
  · obtain ⟨heq, rfl⟩ := Prod.mk.inj (hrun.symm.trans h)
    obtain rfl := Except.ok.inj heq
    exact ⟨c, hc, .inl ⟨hpool, rfl⟩⟩
  · obtain ⟨rfl, rfl⟩ := Prod.mk.inj (hrun.symm.trans h)
    exact ⟨c, hc, .inr ⟨hnone, hmade⟩⟩

/-- Where there is no pool, a user who may use the connection has one made. -/
lemma acquire_makes {c : Connection} (hc : (connectionFor id user w).1 = .ok c)
    (hnone : pool? w id = none) :
    ∃ r w', acquire id user w = (r, w') ∧ Made id c w r w' := by
  rw [acquire_eq hc, hnone]
  exact made_createPool id c w

end

/-- After any history, the engines in use are those of the pools. A request that fails leaves
the pools as they were and disposes what it made, and the next one starts anew; a request that
succeeds is answered with the pool that is there, or with one made from one engine. Disposing
leaves nothing. -/
theorem pools_accounted {start : World} (hstart : Unused start) (steps : List PoolStep) :
    let w := PoolStep.runAll start steps
    Accounted w ∧
    (∀ id user x w', acquire id user w = (.error x, w') →
      w'.pools = w.pools ∧ (∀ n, w.engines ≤ n → n < w'.engines → n ∈ w'.disposed) ∧
      ∀ user' c, (connectionFor id user' w').1 = .ok c → pool? w id = none →
        ∃ r w'', acquire id user' w' = (r, w'') ∧ Made id c w' r w'') ∧
    (∀ id user p w', acquire id user w = (.ok p, w') →
      ∃ c, (connectionFor id user w).1 = .ok c ∧
        ((pool? w id = some p ∧ w' = w) ∨ (pool? w id = none ∧ Made id c w (.ok p) w'))) ∧
    (dispose w).2.pools = [] ∧
    ∀ n < (dispose w).2.engines, n ∈ (dispose w).2.disposed := by
  intro w
  have htidy : Tidy w := (Tidy.of_unused hstart).runAll steps
  refine ⟨htidy.accounted, ?_, fun id user p w' h => acquire_ok h, rfl, ?_⟩
  · intro id user x w' h
    obtain ⟨hpools, hdisposed⟩ := acquire_error h
    refine ⟨hpools, hdisposed, fun user' c hc hnone => acquire_makes hc ?_⟩
    unfold pool? at hnone ⊢
    rw [hpools]
    exact hnone
  · exact htidy.disposed_of_dispose

def ledgerConnection : Connection := ⟨4, some 7, "ledger", "postgres", "db", 5432, "ledger",
  "u", "p", none, none, none⟩

/-- A ledger whose database does not answer at first. -/
def ledger : World where
  store := .memory { connections := [ledgerConnection] }
  target := { connect := fun tick => if tick = 1 then some .timeout else none }

/-- The first request for the ledger times out and its engine is disposed; the next one makes a
pool from a second engine. -/
theorem pools_accounted_ledger :
    Unused ledger ∧
      (∃ w, acquire 4 (some 7) ledger =
          (.error (.failure (.poolExhausted 4 "timed out opening the pool")), w) ∧
        0 ∈ w.disposed ∧ w.pools = [] ∧
        ∃ r w', acquire 4 (some 7) w = (r, w') ∧ Made 4 ledgerConnection w r w') ∧
      Accounted (PoolStep.runAll ledger [.acquire 4 (some 7), .acquire 4 (some 7)]) ∧
      (PoolStep.runAll ledger [.acquire 4 (some 7), .acquire 4 (some 7)]).pools =
        [(4, ⟨ledgerConnection, 1, .postgres⟩)] := by
  have hunused : Unused ledger := ⟨rfl, rfl, rfl⟩
  obtain ⟨-, hfailed, -⟩ := pools_accounted hunused []
  obtain ⟨haccounted, -⟩ :=
    pools_accounted hunused [.acquire 4 (some 7), .acquire 4 (some 7)]
  obtain ⟨hpools, hdisposed, hretry⟩ := hfailed 4 (some 7) _ _ rfl
  exact ⟨hunused, ⟨_, rfl, hdisposed 0 (by decide) (by decide), hpools,
    hretry (some 7) _ rfl rfl⟩, haccounted, rfl⟩

end MetricLayer.Service
