import MetricLayer.Service.AutoMap
import MetricLayer.Text.Blank

/-!
# The semantic service

What callers can ask for: fact queries, derived metrics, reports, links between reports,
inferred mappings, and the tables of a connection. A statement is sent only after it was
compiled for the request and, unless the guard is off, found to be a single query.
-/
namespace MetricLayer.Service

/-- A compiled request and the rows it returned. -/
structure QueryResult where
  compiled : Compiled
  rows : List Row

/-- The reason of a failed query: the first line of the driver's message, or the kind of
failure. -/
def failureReason (e : QueryError) : String :=
  let message := if e.error.fromDriver then Text.trim e.message else ""
  if message.isEmpty then e.error.name else Text.firstLine message

/-- Runs a statement on a pool. -/
def execute (p : Pool) (sql : String) (params : List (String × Value)) :
    ServiceM (List Row) := do
  if ← view (·.guarded) then
    let parser ← view (·.settings.parser)
    lift (Sql.ensureSelect parser sql p.dialect.name)
  lease p do
    send p.engine p.dialect (.query sql params)
    match ← ask fun t tick => t.query tick sql params with
    | .ok rows => return rows
    | .error e => throw (.failure (.executionFailed sql (failureReason e)))

/-- Runs a compiled request on the pool of its connection. -/
def executeCompiled (a : Asker) (c : Compiled) : ServiceM QueryResult := do
  let p ← acquire a.connectionId a.user
  return ⟨c, ← execute p c.sql c.params⟩

/-- Completes a draft with the columns it needs, and runs it. -/
def runDraft (a : Asker) (d : Draft) : ServiceM QueryResult := do
  let columns ← freshLookups (columnsFor a d.needed)
  let settings ← view (·.settings)
  executeCompiled a (← lift (d.complete settings (some columns)))

def runFactQuery (a : Asker) (q : FactQuery) : ServiceM QueryResult := do
  let c ← connectionFor a.connectionId a.user
  let store ← view (·.store)
  runDraft a (← lift (Compile.draftFacts store c q))

def runKpiQuery (a : Asker) (q : KpiQuery) : ServiceM QueryResult := do
  let c ← connectionFor a.connectionId a.user
  let w ← view id
  runDraft a (← lift (Compile.draftKpi w.settings w.store c q))

/-- The report of an id. -/
def getReport (id : Int) : ServiceM Report := do
  let store ← view (·.store)
  match ← lift (store.report? id) with
  | some r => return r
  | none => throw (.failure (.invalidReference "report" (toString id) none))

/-- Runs a report with filters for this run. -/
def runReport (id : Int) (runtime : List (Value × Value)) (user : Option Int) :
    ServiceM QueryResult := do
  let r ← getReport id
  let c ← connectionFor r.connectionId user
  let settings ← view (·.settings)
  executeCompiled ⟨r.connectionId, user⟩ (← lift (Compile.report settings r c.dialect runtime))

/-- The links of a report. -/
def drillConfig (id : Int) (user : Option Int) : ServiceM (List DrillTarget) := do
  let r ← getReport id
  let _ ← connectionFor r.connectionId user
  return r.drillTargets

/-- The filters that a link makes of a row: columns the link does not name are left out. -/
def drillFilters (link : DrillTarget) (row : List (Value × Value)) : List (Value × Value) :=
  (link.mapping.filterMap fun (column, target) =>
    (Value.get? row column).map fun v => (Value.str target, v)).foldl
      (fun es e => Value.put es e.1 e.2) []

/-- Runs the target of a link, filtered by a row of the report the link is on. -/
def drillThrough (id targetId : Int) (row : List (Value × Value)) (user : Option Int) :
    ServiceM QueryResult := do
  let r ← getReport id
  match r.drillTargets.find? (·.reportId == targetId) with
  | none =>
    throw (.failure (.invalidReference "drill target" (toString targetId)
      (some ("not linked from report '" ++ r.name ++ "'"))))
  | some link => runReport targetId (drillFilters link row) user

/-- Infers mappings for a connection. -/
def autoMap (a : Asker) : ServiceM AutoMapResult := do
  let _ ← connectionFor a.connectionId a.user
  freshLookups (autoMapPairs a)

/-- The tables of a connection. -/
def tables (a : Asker) : ServiceM (List String) := do
  let _ ← connectionFor a.connectionId a.user
  freshLookups (listTables a)

/-- The columns of a table, which must have some. -/
def describeTable (a : Asker) (table : String) : ServiceM (List String) := do
  let _ ← connectionFor a.connectionId a.user
  let names ← freshLookups (columns a table)
  if names.isEmpty then
    throw (.failure (.invalidReference "table" table
      (some s!"not found on connection {a.connectionId}")))
  return names

end MetricLayer.Service
