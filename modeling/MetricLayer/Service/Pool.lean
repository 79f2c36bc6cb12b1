import MetricLayer.Service.World

/-!
# Pools

One pool for each connection id, made when it is first needed and kept until all pools are
disposed. A pool that cannot be made is not remembered, and its engine is disposed.
-/
namespace MetricLayer.Service

variable {α : Type}

/-- The connection of an id, if the user may use it. -/
def connectionFor (id : Int) (user : Option Int) : ServiceM Connection := do
  match ← view (·.store.connection? id) with
  | none => throw (.failure (.unknownConnection id))
  | some c =>
    match user, c.ownerId with
    | some u, some owner =>
      if owner == u then return c else throw (.failure (.unauthorizedConnection id))
    | _, _ => return c

/-- The failure of a pool that could not be made. -/
def creationFault (id : Int) (e : DatabaseError) : Fault :=
  match e with
  | .timeout => .failure (.poolExhausted id "timed out opening the pool")
  | _ => .failure (.poolAcquisition id "database unreachable")

/-- The fault of a connection that could not be taken. Only timeouts and failures of the driver
are turned into failures for callers. -/
def leaseFault (id : Int) (e : DatabaseError) : Fault :=
  match e with
  | .timeout => .failure (.poolExhausted id "timed out waiting for a free pooled connection")
  | e => if e.fromDriver then .failure (.poolAcquisition id "database unreachable")
    else .database e

/-- Makes an engine and returns its number. -/
def newEngine : ServiceM Nat := fun w => (.ok w.engines, { w with engines := w.engines + 1 })

/-- Disposes an engine. -/
def disposeEngine (engine : Nat) : ServiceM Unit :=
  change fun w => { w with disposed := w.disposed ++ [engine] }

/-- Tries a new engine with a first connection and statement. -/
def tryEngine (engine : Nat) (c : Connection) (d : Dialect) :
    ServiceM (Option DatabaseError) := do
  match ← checkOut engine c d with
  | some e => return some e
  | none =>
    holding engine do
      send engine d .probe
      ask (·.probe)

/-- Makes a pool for a connection. -/
def createPool (c : Connection) : ServiceM Pool := do
  let d ← lift (Dialect.ofName c.dialect)
  match ← ask (·.build) with
  | some e => throw (.database e)
  | none =>
    let engine ← newEngine
    match ← tryEngine engine c d with
    | none => return ⟨c, engine, d⟩
    | some e =>
      disposeEngine engine
      throw (creationFault c.id e)

/-- The pool of an id. -/
def pool? (w : World) (id : Int) : Option Pool :=
  (w.pools.find? (·.1 == id)).map (·.2)

/-- The pool of a connection, made if there is none. -/
def acquire (id : Int) (user : Option Int) : ServiceM Pool := do
  let c ← connectionFor id user
  match ← view (pool? · id) with
  | some p => return p
  | none =>
    let p ← createPool c
    change fun w => { w with pools := w.pools ++ [(id, p)] }
    return p

/-- Runs a step with a connection taken from a pool. -/
def lease (p : Pool) (step : ServiceM α) : ServiceM α := do
  match ← checkOut p.engine p.connection p.dialect with
  | some e => throw (leaseFault p.connection.id e)
  | none => holding p.engine step

/-- Disposes all pools. -/
def dispose : ServiceM Unit :=
  change fun w =>
    { w with pools := [], disposed := w.disposed ++ w.pools.map (·.2.engine) }

end MetricLayer.Service
