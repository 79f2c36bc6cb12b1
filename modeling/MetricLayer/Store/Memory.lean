import MetricLayer.Model.Report

/-!
# The store in memory

Records are kept in the order they were added; adding a record with a known id puts it in the
place of the old one. Mappings are numbered from one without gaps, and a pair is mapped once.
-/
namespace MetricLayer

/-- Metadata kept in memory. -/
structure Memory where
  connections : List Connection := []
  facts : List Fact := []
  dimensions : List Dimension := []
  kpis : List Kpi := []
  reports : List Report := []
  /-- The stored mappings, each under its number. -/
  mappings : List Mapping := []

/-- Adds a record, in the place of the one with the same id if there is one. -/
def putById {α : Type} (id : α → Int) (records : List α) (a : α) : List α :=
  match records with
  | [] => [a]
  | r :: rest => if id r == id a then a :: rest else r :: putById id rest a

namespace Memory

def addConnection (m : Memory) (c : Connection) : Memory :=
  { m with connections := putById (·.id) m.connections c }

def addFact (m : Memory) (f : Fact) : Memory :=
  { m with facts := putById (·.id) m.facts f }

def addDimension (m : Memory) (d : Dimension) : Memory :=
  { m with dimensions := putById (·.id) m.dimensions d }

def addKpi (m : Memory) (k : Kpi) : Memory :=
  { m with kpis := putById (·.id) m.kpis k }

def addReport (m : Memory) (r : Report) : Memory :=
  { m with reports := putById (·.id) m.reports r }

def connection? (m : Memory) (id : Int) : Option Connection :=
  m.connections.find? (·.id == id)

def factsOn (m : Memory) (connectionId : Int) : List Fact :=
  m.facts.filter (·.connectionId == connectionId)

/-- The facts of given ids on a connection, in the order of the ids. -/
def factsOf (m : Memory) (connectionId : Int) (ids : List Int) : List Fact :=
  (ids.filterMap fun id => m.facts.find? (·.id == id)).filter
    (·.connectionId == connectionId)

def dimensionsOn (m : Memory) (connectionId : Int) : List Dimension :=
  m.dimensions.filter (·.connectionId == connectionId)

/-- The dimensions of given ids on a connection, in the order of the ids. -/
def dimensionsOf (m : Memory) (connectionId : Int) (ids : List Int) : List Dimension :=
  (ids.filterMap fun id => m.dimensions.find? (·.id == id)).filter
    (·.connectionId == connectionId)

def kpi? (m : Memory) (connectionId id : Int) : Option Kpi :=
  (m.kpis.find? (·.id == id)).filter (·.connectionId == connectionId)

def report? (m : Memory) (id : Int) : Option Report :=
  m.reports.find? (·.id == id)

/-- Stores one mapping under the next number, unless its pair is mapped already. -/
def addMapping (m : Memory) (x : Mapping) : Except Fault (Mapping × Memory) :=
  if m.mappings.any (·.pair == x.pair) then
    .error (.badValue
      s!"Mapping for fact {x.factId} and dimension {x.dimensionId} already exists")
  else
    let stored := { x with id := some (m.mappings.length + 1) }
    .ok (stored, { m with mappings := m.mappings ++ [stored] })

/-- Stores mappings one by one. What is stored before one is refused stays stored. -/
def addMappings (m : Memory) : List Mapping → Except Fault (List Mapping) × Memory
  | [] => (.ok [], m)
  | x :: xs =>
    match m.addMapping x with
    | .error e => (.error e, m)
    | .ok (stored, m) =>
      let (rest, m) := m.addMappings xs
      (rest.map (stored :: ·), m)

end Memory

/-- Whether a mapping is between wanted facts and, if they are given, wanted dimensions. -/
def Mapping.isWanted (factIds : List Int) (dimensionIds : Option (List Int)) (x : Mapping) :
    Bool :=
  factIds.contains x.factId &&
    (match dimensionIds with | some ids => ids.contains x.dimensionId | none => true)

end MetricLayer
