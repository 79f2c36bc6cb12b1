import MetricLayer.Service.Semantic
import MetricLayer.Text.Utf8
import MetricLayer.Tools.Reply

/-!
# Responses

What the service answers over HTTP: a status and a JSON body. Failures for callers have a body
that names them, issues of a request are listed, and any other fault is a bare text.
-/
namespace MetricLayer.Http

open Service

/-- The body of a response. -/
inductive Body where
  | json (v : Value)
  | text (s : String)

/-- A response. One that was handled in full bears the headers of the service. -/
structure Response where
  status : Nat
  body : Body
  handled : Bool := true

/-- The protective headers of a response. -/
def secureHeaders : List (String × String) := [
  ("X-Content-Type-Options", "nosniff"), ("X-Frame-Options", "DENY"),
  ("Content-Security-Policy", "default-src 'none'; frame-ancestors 'none'"),
  ("Cache-Control", "no-store")]

/-- A moment in a body: universal time is marked by a letter. -/
def momentJson (d : Day) (t : TimeOfDay) : String :=
  if t.offsetMinutes == some 0 then
    momentText "T" d { t with offsetMinutes := none } ++ "Z"
  else momentText "T" d t

mutual

/-- A value in a body. Numbers that are not finite become null. -/
def jsonValue : Value → Value
  | .float x => if x.isFinite then .float x else .null
  | .list vs => .list (jsonValues vs)
  | .tuple vs => .list (jsonValues vs)
  | .set vs => .list (jsonValues vs)
  | .map es => .map (jsonEntries es)
  | .date d => .str d.text
  | .moment d t => .str (momentJson d t)
  | .bytes bs => .str (Text.ofBytes bs)
  | v => v

def jsonValues : List Value → List Value
  | [] => []
  | v :: vs => jsonValue v :: jsonValues vs

def jsonEntries : List (Value × Value) → List (Value × Value)
  | [] => []
  | (k, v) :: rest => (.str (keyName k), jsonValue v) :: jsonEntries rest

/-- A mapping key in a body. -/
def keyName : Value → String
  | .bool b => if b then "true" else "false"
  | .moment d t => momentJson d t
  | .bytes bs => Text.ofBytes bs
  | v => v.text

end

mutual

/-- Whether every number in a value is finite. -/
def isFinite : Value → Bool
  | .float x => x.isFinite
  | .list vs => areFinite vs
  | .tuple vs => areFinite vs
  | .map es => entriesFinite es
  | _ => true

def areFinite : List Value → Bool
  | [] => true
  | v :: vs => isFinite v && areFinite vs

def entriesFinite : List (Value × Value) → Bool
  | [] => true
  | (_, v) :: rest => isFinite v && entriesFinite rest

end

/-- A list of texts in a body. -/
def texts (ss : List String) : Value := .list (ss.map .str)

/-- An optional text in a body. -/
def text? (s : Option String) : Value := Value.ofOption .str s

/-- A response in full. -/
def ok (v : Value) : Response := ⟨200, .json v, true⟩

/-- A response with a detail. -/
def withDetail (status : Nat) (detail : Value) : Response :=
  ⟨status, .json (.record [("detail", detail)]), true⟩

def notFound : Response := withDetail 404 (.str "Not Found")

def methodNotAllowed : Response := withDetail 405 (.str "Method Not Allowed")

/-- The response to a fault that is not turned into a failure. -/
def crash : Response := ⟨500, .text "Internal Server Error", false⟩

/-- One step of a location. -/
def stepValue : LocationStep → Value
  | .key name => .str name
  | .index i => .int i

/-- An issue of a request. -/
def issueValue (i : Issue) : Value :=
  .record [("type", .str i.complaint.code), ("loc", .list (i.location.map stepValue)),
    ("msg", .str i.complaint.message)]

/-- The part of a body at a location. -/
def partAt : Value → List LocationStep → Value
  | .map es, .key name :: rest =>
    match Value.get? es name with
    | some v => partAt v rest
    | none => .map es
  | .list vs, .index i :: rest =>
    match vs[i.toNat]? with
    | some v => partAt v rest
    | none => .list vs
  | v, _ => v

/-- The part of a body that an issue is about: for a missing field, the record it is missing
from. -/
def subject (body : Value) (i : Issue) : Value :=
  match i.location with
  | .key "body" :: steps => partAt body (if i.complaint == .missing then steps.dropLast else steps)
  | _ => .null

/-- The response to a request with issues. Unlike a result, a part of the body that is written
back must not hold numbers that are not finite. -/
def unprocessable (body : Value) (issues : List Issue) : Response :=
  if issues.all fun i => isFinite (subject body i) then
    withDetail 422 (.list (issues.map issueValue))
  else crash

/-- The response to a failure. -/
def ofFailure (f : Failure) : Response :=
  withDetail f.status (.record [("error", .str f.code), ("message", .str f.message),
    ("retryable", .bool f.retryable), ("sql", text? f.sql?)])

/-- The response to the result of a step of the service. -/
def ofOutcome {α : Type} (render : α → Value) : Except Fault α → Response
  | .ok a => ok (render a)
  | .error (.failure f) => ofFailure f
  | .error _ => crash

/-- A row or the parameters of a query in a body. -/
def recordValue (fields : List (String × Value)) : Value :=
  .map (fields.map fun e => (.str e.1, jsonValue e.2))

/-- The result of a query. -/
def resultValue (r : QueryResult) : Value :=
  let c := r.compiled
  .record [("sql", .str c.sql), ("dialect", .str c.dialect.name),
    ("rows", .list (r.rows.map recordValue)), ("params", recordValue c.params),
    ("resolved", .record [("base_table", .str c.resolved.base),
      ("tables", texts c.resolved.tables), ("dimensions", texts c.resolved.dimensions),
      ("measures", texts c.resolved.measures)]),
    ("warnings", texts c.warnings), ("sql_valid", .bool c.sqlValid)]

/-- A link of a report. -/
def linkValue (t : DrillTarget) : Value :=
  .record [("target_report_id", .int t.reportId), ("label", text? t.label),
    ("mapping", .map (t.mapping.map fun e => (.str e.1, .str e.2)))]

/-- The links of a report. -/
def linksValue (id : Int) (ts : List DrillTarget) : Value :=
  .record [("report_id", .int id), ("targets", .list (ts.map linkValue))]

/-- A mapping. -/
def mappingValue (m : Mapping) : Value :=
  .record [("id", Value.ofOption .int m.id), ("fact_id", .int m.factId),
    ("dimension_id", .int m.dimensionId), ("join_table", .str m.joinTable),
    ("fact_column", .str m.factColumn), ("dimension_column", .str m.dimensionColumn)]

/-- Inferred mappings. -/
def autoMapValue (r : AutoMapResult) : Value :=
  .record [("created", .list (r.created.map mappingValue)), ("skipped", .int r.skipped),
    ("failures", texts r.failures)]

/-- A dialect. -/
def dialectValue (d : Dialect) : Value :=
  .record [("name", .str d.name), ("capabilities", .record
    ((Tools.capabilities d.capabilities).map fun c => (c.1, .bool c.2)))]

/-- The dialects. -/
def dialectsValue : Value := .record [("dialects", .list (Dialect.all.map dialectValue))]

/-- The version of the program. -/
def version : String := "0.4.0"

/-- The state of the service, with the number of its pools. -/
def healthValue (pools : Nat) : Value :=
  .record [("status", .str "ok"), ("version", .str version), ("pools", .int pools)]

end MetricLayer.Http
