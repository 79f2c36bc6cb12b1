import MetricLayer.Store.Memory
import MetricLayer.Text.Case

/-!
# Building a store from a catalog

A catalog has sections of records. Every record is checked by itself and against the sections
before it: who it belongs to has to be there, its id must be new in its section, and its name
on its connection. The links between reports come last. The first flaw ends it.
-/
namespace MetricLayer.Catalog

variable {α : Type}

/-- The sections of a catalog. -/
def sections : List String :=
  ["connections", "facts", "dimensions", "mappings", "kpis", "reports"]

/-- The flaw of a record. -/
def flawAt (path message : String) : Fault :=
  .catalog (.inconsistent (some path) message)

/-- The fault of an integer with more digits than are ever written. -/
def unwritten : Fault :=
  .badValue (s!"Exceeds the limit ({Number.maxKeyDigits} digits) for integer string conversion; " ++
    "use sys.set_int_max_str_digits() to increase the limit")

/-- Whether an integer has more digits than are ever written. -/
def isOverlong (i : Int) : Bool :=
  Nat.pow 10 Number.maxKeyDigits ≤ i.natAbs

/-- The flaw of a record whose message names integers. -/
def flawNaming (ids : List Int) (path message : String) : Fault :=
  if ids.any isOverlong then unwritten else flawAt path message

/-- The place of a record in its section. -/
def itemPath (name : String) (i : Nat) : String :=
  name ++ "[" ++ toString i ++ "]"

/-- The records of a section, none if it is missing or counts as absent. -/
def sectionOf (data : List (Value × Value)) (name : String) : Except Fault (List Value) :=
  match Value.get? data name with
  | none => .ok []
  | some v =>
    if v.isFalsy then .ok []
    else
      match v with
      | .list vs => .ok vs
      | _ => .error (flawAt name "must be a list")

/-- Checks one record. -/
def checkItem (check : Value → Checked α) (path : String) (v : Value) : Except Fault α :=
  match v with
  | .map _ =>
    match check v with
    | .passed a => .ok a
    | .flawed issues => .error (.catalog (.invalid path issues))
  | _ => .error (flawAt path "must be a mapping")

/-- Removes an entry. -/
def withoutKey (es : List (Value × Value)) (key : String) : List (Value × Value) :=
  es.filter fun e => match e.1 with | .str s => s != key | _ => true

/-- Puts the password in place that an environment variable holds, if the record names one. -/
def withPassword (env : List (String × String)) (path : String) (v : Value) :
    Except Fault Value :=
  match v with
  | .map es =>
    match Value.get? es "password_env" with
    | none => .ok v
    | some (.str name) =>
      match env.reverse.find? (·.1 == name) with
      | some (_, password) =>
        .ok (.map (Value.put (withoutKey es "password_env") (.str "password") (.str password)))
      | none =>
        .error (flawAt path ("environment variable '" ++ name ++ "' is not set"))
    | some _ => .error .illTyped
  | _ => .ok v

/-- Checks the connections. -/
def connectionsFrom (env : List (String × String)) : Nat → List Value →
    Except Fault (List Connection)
  | _, [] => .ok []
  | i, v :: vs => do
    let path := itemPath "connections" i
    let c ← checkItem Connection.check path (← withPassword env path v)
    return c :: (← connectionsFrom env (i + 1) vs)

/-- A kind of record that belongs to a connection. -/
structure Kind (α : Type) where
  sectionName : String
  check : Value → Checked α
  id : α → Int
  connectionId : α → Int
  name : α → String

def factKind : Kind Fact := ⟨"facts", Fact.check, (·.id), (·.connectionId), (·.name)⟩

def dimensionKind : Kind Dimension :=
  ⟨"dimensions", Dimension.check, (·.id), (·.connectionId), (·.name)⟩

def kpiKind : Kind Kpi := ⟨"kpis", Kpi.check, (·.id), (·.connectionId), (·.name)⟩

def reportKind : Kind Report := ⟨"reports", Report.check, (·.id), (·.connectionId), (·.name)⟩

/-- The name of a record on its connection, in lower case. -/
def Kind.key (k : Kind α) (a : α) : Int × String := (k.connectionId a, Text.lower (k.name a))

/-- Requires a record to belong to a known connection and to differ from those before it. -/
def Kind.admit (k : Kind α) (known : List Int) (before : List α) (path : String) (a : α) :
    Except Fault Unit :=
  if !known.contains (k.connectionId a) then
    .error (flawNaming [k.connectionId a] path s!"unknown connection {k.connectionId a}")
  else if before.any fun b => k.id b == k.id a then
    .error (flawNaming [k.id a] path s!"duplicate id {k.id a}")
  else if before.any fun b => k.key b == k.key a then
    .error (flawAt path ("duplicate name '" ++ k.name a ++ "' on connection"))
  else .ok ()

/-- Checks the records of a section after those before it, which are given newest first. -/
def Kind.itemsFrom (k : Kind α) (known : List Int) (before : List α) : Nat → List Value →
    Except Fault (List α)
  | _, [] => .ok []
  | i, v :: vs => do
    let path := itemPath k.sectionName i
    let a ← checkItem k.check path v
    k.admit known before path a
    return a :: (← k.itemsFrom known (a :: before) (i + 1) vs)

/-- Checks a section of records that belong to connections. -/
def Kind.read (k : Kind α) (data : List (Value × Value)) (known : List Int) :
    Except Fault (List α) := do
  k.itemsFrom known [] 0 (← sectionOf data k.sectionName)

/-- Requires a mapping to join a known fact and a known dimension of one connection, and to
differ from those before it. -/
def admitMapping (facts : List Fact) (dimensions : List Dimension) (before : List Mapping)
    (path : String) (m : Mapping) : Except Fault Unit :=
  match facts.find? (·.id == m.factId), dimensions.find? (·.id == m.dimensionId) with
  | none, _ => .error (flawNaming [m.factId] path s!"unknown fact {m.factId}")
  | some _, none =>
    .error (flawNaming [m.dimensionId] path s!"unknown dimension {m.dimensionId}")
  | some f, some d =>
    if f.connectionId != d.connectionId then
      .error (flawAt path "fact and dimension belong to different connections")
    else if before.any (·.pair == m.pair) then
      .error (flawNaming [m.factId, m.dimensionId] path
        s!"duplicate mapping for fact/dimension pair ({m.factId}, {m.dimensionId})")
    else .ok ()

/-- Checks the mappings after those before them, which are given newest first. -/
def mappingsFrom (facts : List Fact) (dimensions : List Dimension) (before : List Mapping) :
    Nat → List Value → Except Fault (List Mapping)
  | _, [] => .ok []
  | i, v :: vs => do
    let path := itemPath "mappings" i
    let m ← checkItem Mapping.check path v
    admitMapping facts dimensions before path m
    return m :: (← mappingsFrom facts dimensions (m :: before) (i + 1) vs)

/-- The first link of a report to a report that is not there. -/
def strayLink? (reports : List Report) (r : Report) : Option DrillTarget :=
  r.drillTargets.find? fun t => !reports.any fun s => s.id == t.reportId

/-- Requires every link to lead to a report. -/
def checkLinks (reports : List Report) : List Report → Except Fault Unit
  | [] => .ok ()
  | r :: rest =>
    match strayLink? reports r with
    | some t =>
      .error (flawNaming [r.id, t.reportId] ("reports[id=" ++ toString r.id ++ "]")
        s!"drill target {t.reportId} is not a known report")
    | none => checkLinks reports rest

/-- Builds the store of a catalog. -/
def build (env : List (String × String)) (data : List (Value × Value)) :
    Except Fault Memory := do
  let connections ← connectionsFrom env 0 (← sectionOf data "connections")
  let known := connections.map (·.id)
  let facts ← factKind.read data known
  let dimensions ← dimensionKind.read data known
  let kpis ← kpiKind.read data known
  let reports ← reportKind.read data known
  let mappings ← mappingsFrom facts dimensions [] 0 (← sectionOf data "mappings")
  checkLinks reports reports
  let m := connections.foldl Memory.addConnection {}
  let m := facts.foldl Memory.addFact m
  let m := dimensions.foldl Memory.addDimension m
  let m := kpis.foldl Memory.addKpi m
  let m := reports.foldl Memory.addReport m
  let (saved, m) := m.addMappings mappings
  let _ ← saved
  return m

end MetricLayer.Catalog
