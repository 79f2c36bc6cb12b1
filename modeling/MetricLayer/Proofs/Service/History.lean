import MetricLayer.Proofs.Service.Served

/-!
# Histories of the service

Requests are served one after the other while pools are made and disposed, the metadata change,
and the target database changes its answers. Whatever happens, every connection that is taken
from a pool is given back by the end of the request that took it, and the guard stays as it is.
-/
namespace MetricLayer.Service

/-- What happens to the service. -/
inductive ServiceStep where
  | serve (user : Option Int) (q : Request)
  | pool (step : PoolStep)
  | answer (t : Target)

namespace ServiceStep

/-- The world after a step. -/
def run (w : World) : ServiceStep → World
  | serve user q => (q.run user w).2
  | pool step => step.run w
  | answer t => { w with target := t }

/-- The world after a history. -/
def runAll (w : World) (steps : List ServiceStep) : World := steps.foldl run w

lemma runAll_concat (w : World) (steps : List ServiceStep) (step : ServiceStep) :
    runAll w (steps ++ [step]) = run (runAll w steps) step := List.foldl_concat ..

/-- What holds at first and is kept by every step holds after every history. -/
lemma runAll_induction {P : World → Prop} {w : World} (hfirst : P w)
    (hstep : ∀ w step, P w → P (run w step)) (steps : List ServiceStep) : P (runAll w steps) := by
  induction steps generalizing w with
  | nil => exact hfirst
  | cons step steps ih => exact ih (hstep w step hfirst)

end ServiceStep

/-- However a request is served, it keeps what requests keep. -/
lemma Served.keeps {user : Option Int} {q : Request} {w w' : World} {r : Except Fault Answer}
    (h : Served user q w r w') : ∃ id, Keeps id w w' := by
  cases h with
  | unsent goes _ => exact ⟨_, goes.toKeeps⟩
  | sent _ _ goes _ _ =>
    exact ⟨_, goes.settings, goes.guarded, goes.target, goes.ticks.trans (Nat.le_add_right ..),
      goes.leases, goes.connections, goes.pools⟩

namespace ServiceStep

/-- What becomes of the world in one step: a request or a new pool keeps what requests keep, and
otherwise only the metadata, the pools or the answers of the target database change. -/
inductive Effect (w : World) : ServiceStep → World → Prop
  | serve {user : Option Int} {q : Request} {id : Int} {w' : World} (keeps : Keeps id w w') :
    Effect w (.serve user q) w'
  | acquire {id : Int} {user : Option Int} {w' : World} (keeps : Keeps id w w') :
    Effect w (.pool (.acquire id user)) w'
  | replace {s : Store} : Effect w (.pool (.replace s)) { w with store := s }
  | dispose : Effect w (.pool .dispose) (Service.dispose w).2
  | answer {t : Target} : Effect w (.answer t) { w with target := t }

theorem effect (w : World) (step : ServiceStep) : Effect w step (step.run w) := by
  cases step with
  | serve user q =>
    obtain ⟨r, w', hrun, hserved⟩ := served user q w
    obtain ⟨id, hkeeps⟩ := hserved.keeps
    obtain rfl : run w (.serve user q) = w' := congrArg Prod.snd hrun
    exact .serve hkeeps
  | pool step =>
    cases step with
    | acquire id user => exact .acquire (Moves.acquire id user w).toKeeps
    | replace s => exact .replace
    | dispose => exact .dispose
  | answer t => exact .answer

namespace Effect

variable {w w' : World} {step : ServiceStep}

lemma leases (h : Effect w step w') : w'.leases = w.leases := by
  cases h with
  | serve keeps => exact keeps.leases
  | acquire keeps => exact keeps.leases
  | replace => rfl
  | dispose => rfl
  | answer => rfl

lemma guarded (h : Effect w step w') : w'.guarded = w.guarded := by
  cases h with
  | serve keeps => exact keeps.guarded
  | acquire keeps => exact keeps.guarded
  | replace => rfl
  | dispose => rfl
  | answer => rfl

/-- The pools after a step were there before it, or are made for connections that the metadata
have at that time. -/
lemma pool_cases (h : Effect w step w') {id : Int} {p : Pool} (hp : pool? w' id = some p) :
    pool? w id = some p ∨ MadeFor w.store id p := by
  cases h with
  | serve keeps => exact (keeps.pool_cases hp).imp_right And.right
  | acquire keeps => exact (keeps.pool_cases hp).imp_right And.right
  | replace => exact .inl hp
  | dispose => cases hp
  | answer => exact .inl hp

/-- Connections change only where the metadata are replaced. -/
lemma connections (h : Effect w step w') :
    w'.store.connection? = w.store.connection? ∨
      ∃ s, step = .pool (.replace s) ∧ w'.store = s ∧ w'.pools = w.pools := by
  cases h with
  | serve keeps => exact .inl keeps.connections
  | acquire keeps => exact .inl keeps.connections
  | replace => exact .inr ⟨_, rfl, rfl, rfl⟩
  | dispose => exact .inl rfl
  | answer => exact .inl rfl

end Effect

/-- A history does not turn the guard on or off. -/
theorem runAll_guarded (w : World) (steps : List ServiceStep) :
    (runAll w steps).guarded = w.guarded :=
  runAll_induction (P := fun v => v.guarded = w.guarded) rfl
    (fun v step h => (effect v step).guarded.trans h) steps

/-- After any history, a request leaves as many connections of every engine taken as there were,
whether it succeeds or fails and whatever the target database answers. So none is ever lost. -/
theorem connections_returned (w : World) (steps : List ServiceStep) (user : Option Int)
    (q : Request) (engine : Nat) :
    let v := runAll w steps
    (q.run user v).2.leases.count engine = v.leases.count engine ∧
      v.leases.count engine = w.leases.count engine := by
  have hkept : (runAll w steps).leases = w.leases :=
    runAll_induction (P := fun v => v.leases = w.leases) rfl
      (fun v step h => (effect v step).leases.trans h) steps
  exact ⟨congrArg (List.count engine) (effect (runAll w steps) (serve user q)).leases,
    congrArg (List.count engine) hkept⟩

end ServiceStep
end MetricLayer.Service
