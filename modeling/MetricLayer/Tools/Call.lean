import MetricLayer.Tools.Reply
import MetricLayer.Value.Json

/-!
# Tool calls

The tools that an assistant may call, with arguments as they arrive: only what ends up in a
request is checked. Filters arrive as a JSON text, either a mapping from dimension ids to
values or a list of filters.
-/
namespace MetricLayer.Tools

open Service

/-- A tool and its arguments. -/
inductive Call where
  | factQuery (connectionId facts dimensions aggregation filters : Value)
  | kpiQuery (connectionId kpi dimensions filters : Value)
  | report (id filters : Value)
  | autoMap (connectionId : Value)
  | dialects

/-- What is wrong with a text of filters. -/
inductive FilterFlaw where
  | malformed
  | badValue
  | illTyped
  | invalid (issues : List Issue)
  deriving DecidableEq, Repr

/-- Why a tool gives no text. -/
inductive ToolFault where
  | notInitialised
  | badFilters (flaw : FilterFlaw)
  | badRequest (issues : List Issue)
  | failed (f : Failure)
  /-- A connection id that is no number, and so is not known. -/
  | unknownConnection (given : String)
  /-- A fault that is not turned into a message. -/
  | escaped (f : Fault)
  deriving DecidableEq, Repr

/-- The message of a failure, with the statement it is about. -/
def failureText (f : Failure) : String :=
  "[" ++ f.code ++ "] " ++ f.message ++ (if f.retryable then " (retryable)" else "") ++
    (match f.sql? with
     | some sql => if sql.isEmpty then "" else "\n\n" ++ sql
     | none => "")

/-- The message of a fault, if it has one; the details of bad input are left out. -/
def ToolFault.message? : ToolFault → Option String
  | notInitialised => some "Semantic service not initialised"
  | badFilters _ => some "Invalid filters JSON"
  | badRequest _ => some "Invalid request"
  | failed f => some (failureText f)
  | unknownConnection given => some ("[UNKNOWN_CONNECTION] Unknown connection '" ++ given ++ "'")
  | escaped _ => none

/-- Reads the filters of a mapping: every key is a dimension id. -/
def keyedFilters : List (Value × Value) → Except FilterFlaw (List Filter)
  | [] => .ok []
  | (k, v) :: rest =>
    match Number.keyInt? k.text with
    | none => .error .badValue
    | some id => (keyedFilters rest).map (⟨id, v⟩ :: ·)

/-- Checks filters one after the other, up to the first that is not valid. -/
def listedFilters : List Value → Except FilterFlaw (List Filter)
  | [] => .ok []
  | v :: rest =>
    match Filter.check .record v with
    | .flawed issues => .error (.invalid issues)
    | .passed f => (listedFilters rest).map (f :: ·)

/-- The filters that a JSON value stands for. A text is taken as the list of its characters. -/
def filtersOf : Value → Except FilterFlaw (List Filter)
  | .map es => keyedFilters es
  | .list vs => listedFilters vs
  | .str s => listedFilters (s.toList.map fun c => .str c.toString)
  | _ => .error .illTyped

/-- Reads filters. Nothing at all, or anything that counts as absent, is no filter. -/
def readFilters (v : Value) : Except FilterFlaw (List Filter) :=
  if v.isFalsy then .ok []
  else
    match v with
    | .str s =>
      match Json.read s with
      | .ok v => filtersOf v
      | .error .malformed => .error .malformed
      | .error (.tooManyDigits _) | .error .halfPair => .error .badValue
    | _ => .error .illTyped

/-- A step of a tool. -/
abbrev ToolM := ExceptT ToolFault (StateM World)

variable {α : Type}

/-- The faults of the service that are turned into messages. -/
def ToolFault.ofFault : Fault → ToolFault
  | .failure f => .failed f
  | f => .escaped f

/-- A step of the service within a tool. -/
def serve (step : ServiceM α) : ToolM α :=
  ExceptT.adapt ToolFault.ofFault step

/-- A result within a tool, with the fault it stands for otherwise. -/
def orElse {ε : Type} (fault : ε → ToolFault) (r : Except ε α) : ToolM α := fun w =>
  (r.mapError fault, w)

/-- A list argument, empty if it counts as absent. -/
def orEmpty (v : Value) : Value :=
  if v.isFalsy then .list [] else v

/-- The request of a fact query, whose filters are already checked. -/
def factRequest (facts dimensions aggregation : Value) (filters : List Filter) :
    Checked FactQuery :=
  (FactQuery.fields .record [(.str "fact_ids", facts), (.str "dimension_ids", orEmpty dimensions),
    (.str "aggregation", aggregation)]).map fun q => { q with filters }

/-- The request of a query for a derived metric, whose filters are already checked. -/
def kpiRequest (kpi dimensions : Value) (filters : List Filter) : Checked KpiQuery :=
  (KpiQuery.fields .record [(.str "kpi_id", kpi), (.str "dimension_ids", orEmpty dimensions)]).map
    fun q => { q with filters }

/-- The entries of a mapping argument, none if it counts as absent. -/
def entriesOf : Value → List (Value × Value)
  | .map es => es
  | _ => []

/-- The text of a result within a tool. -/
def reply (r : QueryResult) : ToolM String :=
  orElse .escaped (resultText r)

/-- The id that a value is equal to. Another value is no id, and a list or a mapping cannot even
be looked up. -/
def idOf (unknown : String → ToolFault) (v : Value) : Except ToolFault Int :=
  let missing : Except ToolFault Int := .error (unknown v.text)
  match v with
  | .list _ | .map _ | .set _ => .error (.escaped .illTyped)
  | v =>
    match v.number? with
    | some (.inl i) => .ok i
    | some (.inr x) => x.toInt?.elim missing .ok
    | none => missing

/-- The connection that a value names. -/
def connectionOf (v : Value) : ToolM Asker := fun w =>
  ((idOf .unknownConnection v).map fun id => ⟨id, none⟩, w)

/-- The report that a value names. -/
def reportOf (v : Value) : ToolM Int := fun w =>
  (idOf (fun given => .failed (.invalidReference "report" given none)) v, w)

/-- Runs a tool on a service that is started. -/
def Call.runStarted : Call → ToolM String
  | factQuery connectionId facts dimensions aggregation filters => do
    let filters ← orElse .badFilters (readFilters filters)
    match factRequest facts dimensions aggregation filters with
    | .flawed issues => throw (.badRequest issues)
    | .passed q => reply (← serve (runFactQuery (← connectionOf connectionId) q))
  | kpiQuery connectionId kpi dimensions filters => do
    let filters ← orElse .badFilters (readFilters filters)
    match kpiRequest kpi dimensions filters with
    | .flawed issues => throw (.escaped (.invalid issues))
    | .passed q => reply (← serve (runKpiQuery (← connectionOf connectionId) q))
  | report id filters => do
    reply (← serve (runReport (← reportOf id) (entriesOf filters) none))
  | autoMap connectionId => do
    return autoMapText (← serve (Service.autoMap (← connectionOf connectionId)))
  | dialects => return dialectsText

/-- Runs a tool. All but the list of dialects need a service that is started. -/
def Call.run (started : Bool) (c : Call) : ToolM String :=
  match c with
  | dialects => return dialectsText
  | c => if started then c.runStarted else throw .notInitialised

end MetricLayer.Tools
