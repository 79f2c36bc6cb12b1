import MetricLayer.Store.Memory
import MetricLayer.Value.Json

/-!
# The relational store

Metadata in the rows of tables. Some columns are only understood when they are read: the
aggregation of a fact is a text, and the value of a filter and the mapping of a link are JSON.
The columns and filters of a report are asked for in the order of their numbers and its links in
no order: which of two equal numbers comes first is up to the database. A batch of mappings is
stored as a whole or not at all.
-/
namespace MetricLayer

/-- A row of the facts table. -/
structure FactRow where
  id : Int
  connectionId : Int
  name : String
  table : String
  column : String
  aggregation : String
  deriving DecidableEq, Repr

/-- A row of the reports table. -/
structure ReportRow where
  id : Int
  ownerId : Option Int
  connectionId : Int
  name : String
  description : Option String
  table : String
  deriving DecidableEq, Repr

/-- A row of the report columns table. -/
structure ReportColumnRow where
  id : Int
  reportId : Int
  column : String
  label : Option String
  dataType : Option String
  visible : Option Bool
  order : Option Int
  deriving DecidableEq, Repr

/-- A row of the report filters table. -/
structure ReportFilterRow where
  id : Int
  reportId : Int
  column : String
  operator : String
  value : Option String
  editable : Option Bool
  order : Option Int
  deriving DecidableEq, Repr

/-- A row of the table of links between reports. -/
structure DrillRow where
  id : Int
  reportId : Int
  targetId : Int
  mapping : Option String
  label : Option String
  deriving DecidableEq, Repr

/-- Rows in the order of their ids. -/
def sortById {α : Type} (id : α → Int) (rows : List α) : List α :=
  rows.mergeSort fun a b => id a ≤ id b

/-- Whether a value comes before another, where none comes first. -/
def precedes : Option Int → Option Int → Bool
  | none, _ => true
  | some _, none => false
  | some x, some y => x ≤ y

/-- Rows in the order of a column, those without a value first. -/
def sortByOrder {α : Type} (order : α → Option Int) (rows : List α) : List α :=
  rows.mergeSort fun a b => precedes (order a) (order b)

/-- How a database puts rows in the order of a column. Rows that have a value ascend in it; which
of two equal ones comes first, and where a row without a value comes, is up to the database. -/
structure Arrangement (α : Type) (order : α → Option Int) where
  arrange : List α → List α
  perm (rows : List α) : (arrange rows).Perm rows
  ascending (rows : List α) :
    (arrange rows).Pairwise fun a b => ∀ x ∈ order a, ∀ y ∈ order b, x ≤ y

@[simp] theorem Arrangement.arrange_nil {α : Type} {order : α → Option Int}
    (a : Arrangement α order) : a.arrange [] = [] :=
  (a.perm []).eq_nil

@[simp] theorem Arrangement.arrange_singleton {α : Type} {order : α → Option Int}
    (a : Arrangement α order) (row : α) : a.arrange [row] = [row] :=
  List.perm_singleton.mp (a.perm [row])

/-- Rows without a value come first, and rows of one value in the order of their ids. -/
def Arrangement.byId {α : Type} {order : α → Option Int} (id : α → Int) :
    Arrangement α order where
  arrange rows := sortByOrder order (sortById id rows)
  perm _ := (List.mergeSort_perm _ _).trans (List.mergeSort_perm _ _)
  ascending rows := by
    have hsorted : (sortByOrder order (sortById id rows)).Pairwise fun a b =>
        precedes (order a) (order b) := by
      refine List.pairwise_mergeSort (fun a b c => ?_) (fun a b => ?_) _
      · cases order a <;> cases order b <;> cases order c <;> simp [precedes]
        exact Int.le_trans
      · cases order a <;> cases order b <;> simp [precedes, Int.le_total]
    refine hsorted.imp fun hab x hx y hy => ?_
    rw [hx, hy] at hab
    simpa [precedes] using hab

/-- Metadata kept in tables, and how the database arranges the parts of a report. -/
structure Relational where
  connections : List Connection := []
  facts : List FactRow := []
  dimensions : List Dimension := []
  mappings : List Mapping := []
  kpis : List Kpi := []
  reports : List ReportRow := []
  reportColumns : List ReportColumnRow := []
  reportFilters : List ReportFilterRow := []
  drills : List DrillRow := []
  columnOrder : Arrangement ReportColumnRow (·.order) := .byId (·.id)
  filterOrder : Arrangement ReportFilterRow (·.order) := .byId (·.id)
  drillOrder : Arrangement DrillRow fun _ => none := .byId (·.id)

/-- Why an integer with too many digits is not read. -/
def tooManyDigits (count : Nat) : Fault :=
  .badValue (s!"Exceeds the limit ({Json.maxDigits} digits) for integer string conversion: " ++
    s!"value has {count} digits; use sys.set_int_max_str_digits() to increase the limit")

/-- The value of a stored text, which is the text itself if it is not JSON. -/
def storedValue : Option String → Except Fault Value
  | none => .ok .null
  | some s =>
    match Json.read s with
    | .ok v => .ok v
    | .error (.tooManyDigits n) => .error (tooManyDigits n)
    | .error .halfPair => .error (.badValue "surrogates not allowed")
    | .error .malformed => .ok (.str s)

/-- The fact of a row. -/
def FactRow.read (r : FactRow) : Except Fault Fact :=
  let aggregation := (Aggregation.check (.str r.aggregation)).under (.key "aggregate_function")
  (aggregation.map fun a => ⟨r.id, r.connectionId, r.name, r.table, r.column, a⟩).orFault

def ReportColumnRow.read (r : ReportColumnRow) : ReportColumn :=
  ⟨r.column, r.label, r.dataType, r.visible.getD false, r.order.getD 0⟩

def ReportFilterRow.read (r : ReportFilterRow) : Except Fault ReportFilter := do
  let v ← storedValue r.value
  return ⟨r.column, r.operator, v, r.editable.getD false, r.order.getD 0⟩

def DrillRow.read (r : DrillRow) : Except Fault DrillTarget := do
  let v ← storedValue r.mapping
  let mapping := Check.mapping Check.string (if v.isFalsy then .map [] else v)
  let entries ← (mapping.under (.key "mapping")).orFault
  return ⟨r.targetId, entries, r.label⟩

namespace Relational

/-- A connection of a given id; an empty schema counts as none. -/
def connection? (r : Relational) (id : Int) : Option Connection :=
  (r.connections.find? (·.id == id)).map fun c =>
    { c with selectedDb := c.selectedDb.filter (!·.isEmpty) }

def factsOn (r : Relational) (connectionId : Int) : Except Fault (List Fact) :=
  (sortById (·.id) (r.facts.filter (·.connectionId == connectionId))).mapM FactRow.read

/-- The facts of given ids on a connection, each once, in the order of the ids. -/
def factsOf (r : Relational) (connectionId : Int) (ids : List Int) :
    Except Fault (List Fact) := do
  let rows := r.facts.filter fun f => f.connectionId == connectionId && ids.contains f.id
  let found ← (sortById (·.id) rows).mapM FactRow.read
  return ids.eraseDups.filterMap fun id => found.find? (·.id == id)

def dimensionsOn (r : Relational) (connectionId : Int) : List Dimension :=
  sortById (·.id) (r.dimensions.filter (·.connectionId == connectionId))

/-- The dimensions of given ids on a connection, each once, in the order of the ids. -/
def dimensionsOf (r : Relational) (connectionId : Int) (ids : List Int) : List Dimension :=
  let rows := r.dimensions.filter fun d => d.connectionId == connectionId
  ids.eraseDups.filterMap fun id => rows.find? (·.id == id)

/-- The mappings between facts and dimensions, in the order of their ids. -/
def mappingsOf (r : Relational) (factIds : List Int) (dimensionIds : Option (List Int)) :
    List Mapping :=
  sortById (fun x => x.id.getD 0) (r.mappings.filter (Mapping.isWanted factIds dimensionIds))

def kpi? (r : Relational) (connectionId id : Int) : Option Kpi :=
  r.kpis.find? fun k => k.id == id && k.connectionId == connectionId

/-- A report with its columns, filters and links as the database arranges them. -/
def report? (r : Relational) (id : Int) : Except Fault (Option Report) :=
  match r.reports.find? (·.id == id) with
  | none => .ok none
  | some row => do
    let columns := r.columnOrder.arrange (r.reportColumns.filter (·.reportId == id))
    let filters ← (r.filterOrder.arrange
      (r.reportFilters.filter (·.reportId == id))).mapM ReportFilterRow.read
    let drills ← (r.drillOrder.arrange
      (r.drills.filter (·.reportId == id))).mapM DrillRow.read
    return some ⟨row.id, row.connectionId, row.ownerId, row.name, row.description, row.table,
      columns.map ReportColumnRow.read, filters, drills⟩

/-- The least id above all given ones, one if there are none. -/
def nextId : List Int → Int
  | [] => 1
  | id :: ids => ids.foldl max id + 1

/-- Stores one mapping under a new id, unless its pair is mapped already. -/
def addMapping (r : Relational) (x : Mapping) : Except Fault (Mapping × Relational) :=
  if r.mappings.any (·.pair == x.pair) then .error (.database .integrity)
  else
    let stored := { x with id := some (nextId (r.mappings.filterMap (·.id))) }
    .ok (stored, { r with mappings := r.mappings ++ [stored] })

/-- Stores a batch of mappings, all of them or none. -/
def storeAll (r : Relational) : List Mapping → Except Fault (List Mapping × Relational)
  | [] => .ok ([], r)
  | x :: xs => do
    let (stored, r) ← r.addMapping x
    let (rest, r) ← r.storeAll xs
    return (stored :: rest, r)

/-- Stores a batch of mappings; a failure leaves the store as it was. -/
def addMappings (r : Relational) (xs : List Mapping) :
    Except Fault (List Mapping) × Relational :=
  match r.storeAll xs with
  | .ok (stored, r') => (.ok stored, r')
  | .error e => (.error e, r)

end Relational
end MetricLayer
