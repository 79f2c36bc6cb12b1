import MetricLayer.Store.Relational

/-!
# Metadata stores

The two kinds of store behind one set of operations. Reading a record of the relational store
may fail; only mappings are ever written.
-/
namespace MetricLayer

/-- A metadata store. -/
inductive Store where
  | memory (m : Memory)
  | relational (r : Relational)

namespace Store

/-- The store without records. -/
def empty : Store := .memory {}

def connection? (s : Store) (id : Int) : Option Connection :=
  match s with
  | memory m => m.connection? id
  | relational r => r.connection? id

/-- The facts of a connection. -/
def factsOn (s : Store) (connectionId : Int) : Except Fault (List Fact) :=
  match s with
  | memory m => .ok (m.factsOn connectionId)
  | relational r => r.factsOn connectionId

/-- The facts of given ids that belong to a connection, in the order of the ids. -/
def factsOf (s : Store) (connectionId : Int) (ids : List Int) : Except Fault (List Fact) :=
  match s with
  | memory m => .ok (m.factsOf connectionId ids)
  | relational r => r.factsOf connectionId ids

/-- The dimensions of a connection. -/
def dimensionsOn (s : Store) (connectionId : Int) : List Dimension :=
  match s with
  | memory m => m.dimensionsOn connectionId
  | relational r => r.dimensionsOn connectionId

/-- The dimensions of given ids that belong to a connection, in the order of the ids. -/
def dimensionsOf (s : Store) (connectionId : Int) (ids : List Int) : List Dimension :=
  match s with
  | memory m => m.dimensionsOf connectionId ids
  | relational r => r.dimensionsOf connectionId ids

/-- The mappings of given facts and, if they are given, of given dimensions. -/
def mappingsOf (s : Store) (factIds : List Int) (dimensionIds : Option (List Int)) :
    List Mapping :=
  match s with
  | memory m => m.mappings.filter (Mapping.isWanted factIds dimensionIds)
  | relational r => r.mappingsOf factIds dimensionIds

def kpi? (s : Store) (connectionId id : Int) : Option Kpi :=
  match s with
  | memory m => m.kpi? connectionId id
  | relational r => r.kpi? connectionId id

def report? (s : Store) (id : Int) : Except Fault (Option Report) :=
  match s with
  | memory m => .ok (m.report? id)
  | relational r => r.report? id

/-- Stores mappings and returns them with their ids. -/
def addMappings (s : Store) (xs : List Mapping) : Except Fault (List Mapping) × Store :=
  match s with
  | memory m =>
    let (result, m) := m.addMappings xs
    (result, memory m)
  | relational r =>
    let (result, r) := r.addMappings xs
    (result, relational r)

end Store
end MetricLayer
