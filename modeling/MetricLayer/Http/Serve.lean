import MetricLayer.Http.Address
import MetricLayer.Http.Response

/-!
# Serving requests

Which request is answered by which step of the service. A body is read before anything else,
then the service must be started, then the user, the path and the body are checked together.
-/
namespace MetricLayer.Http

open Service

/-- A request: its method, its address, its headers and the text of its body. -/
structure Request where
  method : String := "GET"
  address : Address
  headers : List (String × String) := []
  body : String := ""

/-- What is requested. Ids are texts of the path, not checked yet. -/
inductive Resource where
  | health
  | dialects
  | factQuery
  | kpiQuery
  | runReport (id : String)
  | drill (id : String)
  | drillConfig (id : String)
  | autoMap (connectionId : String)
  | tables (connectionId : String)
  | columns (connectionId table : String)
  deriving DecidableEq, Repr

/-- The resource of a path. -/
def Resource.ofSegments? (segments : List String) : Option Resource :=
  let given (s : String) (r : Resource) : Option Resource := if s.isEmpty then none else some r
  match segments with
  | ["health"] => some health
  | ["dialects"] => some dialects
  | ["queries", "facts"] => some factQuery
  | ["queries", "kpi"] => some kpiQuery
  | ["reports", id, "run"] => given id (runReport id)
  | ["reports", id, "drill"] => given id (drill id)
  | ["reports", id, "drill-config"] => given id (drillConfig id)
  | ["connections", id, "auto-map"] => given id (autoMap id)
  | ["connections", id, "tables"] => given id (tables id)
  | ["connections", id, "tables", table, "columns"] =>
    if table.isEmpty then none else given id (columns id table)
  | _ => none

/-- The resource of an address and the address it is found at. If only the path without slashes
at its end has one, the request is sent on to that path, which is read once more. -/
def Resource.find? (a : Address) : Option (Resource × Address) :=
  match ofSegments? (segmentsOf a.path) with
  | some resource => some (resource, a)
  | none =>
    match a.shortPath? with
    | none => none
    | some path =>
      if (ofSegments? (segmentsOf path)).isNone then none
      else
        let a := Address.read (if a.query.isEmpty then path else path ++ "?" ++ a.query)
        (ofSegments? (segmentsOf a.path)).map (·, a)

/-- The only method of a resource. -/
def Resource.method : Resource → String
  | factQuery | kpiQuery | drill _ | autoMap _ => "POST"
  | _ => "GET"

/-- The header of a name, whatever its letter case. -/
def Request.header? (r : Request) (name : String) : Option String :=
  (r.headers.find? fun h => h.1.toLower == name).map (·.2)

/-- The media type of a body. -/
def mediaType (header : String) : String :=
  let type := (Text.trim (cutAt ';' header).1).toLower
  if (type.toList.filter (· == '/')).length == 1 then type else "text/plain"

/-- Whether a body is said to be JSON. -/
def Request.isJson (r : Request) : Bool :=
  match (r.header? "content-type").map fun h => cutAt '/' (mediaType h) with
  | some ("application", some subtype) => subtype == "json" || subtype.endsWith "+json"
  | _ => false

/-- The value of a body, null if there is none. A body of another media type is a text. -/
def Request.bodyValue (r : Request) : Except Json.Flaw Value :=
  if r.body.isEmpty then .ok .null
  else if !r.isJson then .ok (.str r.body)
  else Json.read (if r.body.startsWith "\ufeff" then (r.body.drop 1).copy else r.body)

/-- The response to a body that cannot be read. -/
def ofBodyFlaw : Json.Flaw → Response
  | .malformed => unprocessable .null [⟨[.key "body"], .malformedBody⟩]
  | .tooManyDigits _ => withDetail 400 (.str "There was an error parsing the body")
  | .halfPair => crash

/-- The user of a request. -/
def Request.user (r : Request) : Checked (Option Int) :=
  match r.header? "x-user-id" with
  | none => .passed none
  | some s =>
    (((Check.integerText s).map some).under (.key "x-user-id")).under (.key "header")

/-- An id in a path. -/
def pathId (name s : String) : Checked Int :=
  ((Check.integerText s).under (.key name)).under (.key "path")

/-- A body, which must be given. -/
def bodyOf {α : Type} (check : Value → Checked α) (v : Value) : Checked α :=
  match v with
  | .null => (Checked.reject .missing).under (.key "body")
  | v => (check v).under (.key "body")

/-- Answers with a step of the service, once what it needs is checked. -/
def answerWith {α β : Type} (body : Value) (needs : Checked α) (step : α → ServiceM β)
    (render : α → β → Value) : StateM World Response :=
  match needs with
  | .flawed issues => return unprocessable body issues
  | .passed a => fun w =>
    let (r, w) := step a w
    (ofOutcome (render a) r, w)

/-- Answers the request of a resource of the started service. -/
def Resource.answer (resource : Resource) (r : Request) (body : Value) :
    StateM World Response :=
  match resource with
  | health => fun w => (ok (healthValue w.pools.length), w)
  | dialects => return ok dialectsValue
  | factQuery =>
    answerWith body (Prod.mk <$> r.user
        <*> bodyOf (Check.withConnection "FactQueryBody" FactQuery.fields) body)
      (fun (user, id, q) => runFactQuery ⟨id, user⟩ q) fun _ => resultValue
  | kpiQuery =>
    answerWith body (Prod.mk <$> r.user
        <*> bodyOf (Check.withConnection "KpiQueryBody" KpiQuery.fields) body)
      (fun (user, id, q) => runKpiQuery ⟨id, user⟩ q) fun _ => resultValue
  | runReport id =>
    answerWith body (Prod.mk <$> r.user <*> pathId "report_id" id)
      (fun (user, id) => Service.runReport id r.address.grouped user) fun _ => resultValue
  | drill id =>
    answerWith body ((fun user id q => (user, id, q)) <$> r.user <*> pathId "report_id" id
        <*> bodyOf (DrillQuery.check .body) body)
      (fun (user, id, q) => drillThrough id q.targetReportId
        (q.row.map fun e => (.str e.1, e.2)) user) fun _ => resultValue
  | drillConfig id =>
    answerWith body (Prod.mk <$> r.user <*> pathId "report_id" id)
      (fun (user, id) => Service.drillConfig id user) fun (_, id) => linksValue id
  | autoMap id =>
    answerWith body (Prod.mk <$> r.user <*> pathId "connection_id" id)
      (fun (user, id) => Service.autoMap ⟨id, user⟩) fun _ => autoMapValue
  | tables id =>
    answerWith body (Prod.mk <$> r.user <*> pathId "connection_id" id)
      (fun (user, id) => Service.tables ⟨id, user⟩) fun _ names =>
        .record [("tables", texts names)]
  | columns id table =>
    answerWith body (Prod.mk <$> r.user <*> pathId "connection_id" id)
      (fun (user, id) => describeTable ⟨id, user⟩ table) fun _ names =>
        .record [("table", .str table), ("columns", texts names)]

/-- Whether a resource has a body. -/
def Resource.takesBody : Resource → Bool
  | factQuery | kpiQuery | drill _ => true
  | _ => false

/-- Whether a resource is there before the service is started. -/
def Resource.isStatic : Resource → Bool
  | health | dialects => true
  | _ => false

/-- Answers a request. -/
def respond (started : Bool) (r : Request) : StateM World Response :=
  match Resource.find? r.address with
  | none => return notFound
  | some (resource, address) =>
    let r := { r with address }
    if r.method != resource.method then return methodNotAllowed
    else
      match if resource.takesBody then r.bodyValue else .ok .null with
      | .error flaw => return ofBodyFlaw flaw
      | .ok body =>
        if !started && !resource.isStatic then return crash
        else resource.answer r body

/-- Answers a request; a request for the headers only gets no body. -/
def serve (started : Bool) (r : Request) : StateM World Response := fun w =>
  let (response, w) := respond started r w
  (if r.method == "HEAD" then { response with body := .text "" } else response, w)

end MetricLayer.Http
