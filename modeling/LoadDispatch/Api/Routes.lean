import LoadDispatch.Api.Headers
import LoadDispatch.Api.Envelope
import LoadDispatch.Api.MediaType
import LoadDispatch.Wire.Access
import LoadDispatch.Wire.Store
import LoadDispatch.Json.Typed
import LoadDispatch.Json.Reader
import LoadDispatch.Json.Writer

/-!
The HTTP API of an instance, under `/api/v1`. A handler reads its inputs in order and stops at the
first it cannot read: the request context (401), the path id (400), then a JSON body, which needs a
JSON content type (415), must parse (400) and must decode into the expected record (422). Scheduling
failures map to statuses: not found 404, forbidden 403, already running 409, missing targets 400,
quota 429, storage 500; the others answer 200 with `success: false`.
-/

namespace LoadDispatch

namespace Api

structure Request where
  method : String
  /-- The path, possibly with a query. -/
  path : String
  headers : Headers
  body : Option String := none

/-- What a response carries. -/
inductive Body where
  | json (j : Json)
  | text (t : String)

structure Response where
  status : Nat
  body : Body

def ok (data : Json) : Response := ⟨200, .json (envelope true none data)⟩

def failure (status : Nat) (message : String) : Response :=
  ⟨status, .json (envelope false (some message) .null)⟩

/-- The status of a scheduling failure. -/
def failureStatus : SchedulingFailure → Nat
  | .notFound _ => 404
  | .forbidden _ => 403
  | .alreadyRunning _ | .inFlight _ => 409
  | .missingTargets _ => 400
  | .quotaExceeded _ => 429
  | .storage _ => 500
  | _ => 200

def outcomeFailure (f : SchedulingFailure) : Response :=
  ⟨failureStatus f, .json (envelope false (some f.message) (Json.list NodeOutcome.toJson f.outcomes))⟩

def plainFailure (f : SchedulingFailure) : Response := failure (failureStatus f) f.message

/-- A rejected request: the answer is given instead of running the handler. -/
abbrev Extract (α : Type) := Except Response α

def context (req : Request) : Extract RequestContext :=
  (RequestContext.ofHeaders req.headers.get?).mapError fun m => ⟨401, .json (envelope false (some m) .null)⟩

def hexNibble (c : Char) : Option Nat :=
  if c.isDigit then some (c.toNat - 48)
  else if 'a' ≤ c && c ≤ 'f' then some (c.toNat - 87)
  else if 'A' ≤ c && c ≤ 'F' then some (c.toNat - 55)
  else none

def percentBytes : List Char → List UInt8
  | '%' :: a :: b :: rest =>
    match hexNibble a, hexNibble b with
    | some x, some y => (x * 16 + y).toUInt8 :: percentBytes rest
    | _, _ => '%'.toNat.toUInt8 :: percentBytes (a :: b :: rest)
  | c :: rest => (String.singleton c).toUTF8.toList ++ percentBytes rest
  | [] => []

def pathId (segment : String) : Extract Int :=
  let invalid : Response := ⟨400, .text ("Invalid URL: Cannot parse " ++ segment ++ " to a i64")⟩
  match String.fromUTF8? ⟨(percentBytes segment.toList).toArray⟩ with
  | some s => match parseI64 s with
    | some i => .ok i
    | none => .error invalid
  | none => .error invalid

def isJsonContentType (value : String) : Bool := (MediaType.parse? value).any MediaType.isJson

/-- The body read as a record of a shape: the text is read against the shape in one pass, so
whichever fault comes first decides between 400 (not JSON) and 422 (not the record). -/
def jsonBody {α : Type} (req : Request) (shape : Shape) (d : Decoder α) : Extract α :=
  let typed := match req.headers.get? "content-type" with
    | some v => isVisibleText v && isJsonContentType v
    | none => false
  let unreadable : Response := ⟨422, .text "Failed to deserialize the JSON body into the target type"⟩
  if !typed then .error ⟨415, .text "Expected request with `Content-Type: application/json`"⟩
  else match Json.readTyped shape (req.body.getD "") with
    | .error .form => .error ⟨400, .text "Failed to parse the request body as JSON"⟩
    | .error .content => .error unreadable
    | .ok j => (d j).mapError fun _ => unreadable

/-- Runs a handler once its inputs are read. -/
def withInputs {α : Type} (inputs : Extract α) (handler : α → SiteM Response) : SiteM Response :=
  match inputs with
  | .ok a => handler a
  | .error r => pure r

def outcomesAnswer (r : Except SchedulingFailure (List NodeOutcome)) : Response :=
  match r with
  | .ok os => ok (Json.list NodeOutcome.toJson os)
  | .error f => outcomeFailure f

def health : SiteM Response := do
  let s ← get
  return ok (.obj [("status", .str "ok"), ("version", .str "0.1.0"),
    ("instance_id", .str s.ctl.config.controller.instanceId),
    ("executions", .obj (s.db.statusCounts.map fun p => (p.1.text, .ofNat p.2)))])

def submit (req : Request) : SiteM Response :=
  withInputs (do return (← context req, ← jsonBody req NewExecution.shape NewExecution.decode)) fun (ctx, new) => do
    if !ctx.mayOperate new.tenantId then
      return failure 403 ("not permitted to submit for tenant " ++ toString new.tenantId)
    match (← get).db.create new with
    | .ok (id, db) => modify (fun s => { s with db }) *> pure (ok (.obj [("id", .ofInt id)]))
    | .error m => return failure 500 m

/-- An execution the caller may operate, or the failure answer. -/
def visible (ctx : RequestContext) (id : Int) : SiteM (Except Response Execution) := do
  match (← get).db.execution? id with
  | some e =>
    if ctx.mayOperate e.tenantId then return .ok e else return .error (plainFailure (.forbidden id))
  | none => return .error (plainFailure (.notFound id))

def showExecution (req : Request) (segment : String) : SiteM Response :=
  withInputs (do return (← context req, ← pathId segment)) fun (ctx, id) => do
    match ← visible ctx id with
    | .ok e => return ok e.toJson
    | .error r => return r

/-- Replaces the thread configuration of an execution that is not running or scheduling. -/
def overrideThreads (req : Request) (segment : String) : SiteM Response :=
  withInputs (do return (← context req, ← pathId segment, ← jsonBody req ThreadConfig.shape ThreadConfig.decode))
    fun (ctx, id, threads) => do
      match ← visible ctx id with
      | .error r => return r
      | .ok e =>
        if e.status == .running || e.status == .scheduling then
          return plainFailure (.alreadyRunning id)
        match (← get).db.updateThreads id threads with
        | .error m => return failure 500 m
        | .ok db =>
          modify fun s => { s with db }
          match db.execution? id with
          | some e => return ok e.toJson
          | none => return plainFailure (.notFound id)

def startExecution (req : Request) : SiteM Response :=
  withInputs (do return (← context req, ← jsonBody req StartRequest.shape StartRequest.decode)) fun (ctx, r) => do
    return outcomesAnswer (← (Orchestrator.start ctx r).run)

def stopExecution (req : Request) : SiteM Response :=
  withInputs (do return (← context req, ← jsonBody req StopRequest.shape StopRequest.decode)) fun (ctx, r) => do
    return outcomesAnswer (← (Orchestrator.stop ctx r).run)

def deleteShape : Shape := .record [Shape.needed "ids" (.list Shape.i64)]

def deleteIds : Decoder (List Int) := fun j => do
  let j ← Decoder.record deleteShape.fieldSpecs j
  Decoder.field j "ids" (Decoder.list Decoder.i64)

def deleteExecutions (req : Request) : SiteM Response :=
  withInputs (do return (← context req, ← jsonBody req deleteShape deleteIds)) fun (ctx, ids) => do
    return ok (← Orchestrator.delete ctx ids).toJson

def completeExecution (req : Request) (segment : String) : SiteM Response :=
  withInputs (do return (← context req, ← pathId segment, ← jsonBody req CompletionReport.shape CompletionReport.decode))
    fun (ctx, id, report) => do
      match ← (Orchestrator.complete ctx id report).run with
      | .ok r => return ok r.toJson
      | .error f => return plainFailure f

/-- The current result of an execution's script with its case verdicts. -/
def executionResult (req : Request) (segment : String) : SiteM Response :=
  withInputs (do return (← context req, ← pathId segment)) fun (ctx, id) => do
    match ← visible ctx id with
    | .error r => return r
    | .ok e =>
      let db := (← get).db
      match db.currentResult e.scriptType e.resultSourceId with
      | none => return failure 404 ("execution " ++ toString id ++ " has no result yet")
      | some r => return ok (.obj [("result", r.toJson),
          ("cases", Json.list TestCaseResult.toJson (db.caseResultsOf r.id))])

/-- A relayed start or stop, from the system principal only; a failure becomes per-node
outcomes. -/
def relayed {α : Type} (req : Request) (shape : Shape) (d : Decoder α) (targets : α → List Int)
    (run : RequestContext → α → Orchestrator.Orch (List NodeOutcome)) : SiteM Response :=
  withInputs (do return (← context req, ← jsonBody req shape d)) fun (ctx, r) => do
    if !ctx.isSystem then return failure 403 "only the system principal relays commands"
    match ← (run ctx r).run with
    | .ok os => return ok (Json.list NodeOutcome.toJson os)
    | .error f => return ok (Json.list NodeOutcome.toJson (f.nodeOutcomes (targets r)))

def listNodes (req : Request) : SiteM Response :=
  withInputs (context req) fun _ => do
    return ok (Json.list NodeInfo.toJson (← get).db.listNodes)

/-- Registers a node, for the system principal only. -/
def registerNode (req : Request) : SiteM Response :=
  withInputs (do return (← context req, ← jsonBody req NodeRegistration.shape NodeRegistration.decode)) fun (ctx, reg) => do
    if !ctx.isSystem then return failure 403 "only the system principal registers nodes"
    modify fun s => { s with db := s.db.register reg s.now }
    return ok reg.toJson

def enabledShape : Shape := .record [Shape.needed "enabled" .bool]

def enabledFlag : Decoder Bool := fun j => do
  let j ← Decoder.record enabledShape.fieldSpecs j
  Decoder.field j "enabled" Decoder.bool

def setNodeEnabled (req : Request) (segment : String) : SiteM Response :=
  withInputs (do return (← context req, ← pathId segment, ← jsonBody req enabledShape enabledFlag))
    fun (ctx, id, enabled) => do
      if !ctx.isSystem then return failure 403 "only the system principal manages nodes"
      modify fun s => { s with db := s.db.setEnabled id enabled }
      return ok (.ofInt id)

def nodeHeartbeat (segment : String) : SiteM Response :=
  withInputs (pathId segment) fun id => do
    let s ← get
    let (known, db) := s.db.heartbeat id s.now
    set { s with db }
    if known then return ok (.ofInt id)
    return failure 404 ("node " ++ toString id ++ " is not registered")

abbrev Route := List (String × SiteM Response)

/-- The route of a path under the API prefix, by segments; static segments win over ids. -/
def route (req : Request) : List String → Option Route
  | ["health"] => some [("GET", health)]
  | ["executions"] => some [("POST", submit req)]
  | ["executions", "start"] => some [("POST", startExecution req)]
  | ["executions", "stop"] => some [("POST", stopExecution req)]
  | ["executions", "delete"] => some [("POST", deleteExecutions req)]
  | ["relay", "start"] =>
    some [("POST", relayed req StartRequest.shape StartRequest.decode (·.nodeIds)
      fun ctx r => Orchestrator.start ctx { r with broadcast := false })]
  | ["relay", "stop"] =>
    some [("POST", relayed req StopRequest.shape StopRequest.decode (·.nodeIds)
      fun ctx r => Orchestrator.stop ctx { r with broadcast := false })]
  | ["nodes"] => some [("GET", listNodes req), ("POST", registerNode req)]
  | ["executions", id] => if id.isEmpty then none else some [("GET", showExecution req id)]
  | ["executions", id, "threads"] => if id.isEmpty then none else some [("POST", overrideThreads req id)]
  | ["executions", id, "complete"] =>
    if id.isEmpty then none else some [("POST", completeExecution req id)]
  | ["executions", id, "result"] => if id.isEmpty then none else some [("GET", executionResult req id)]
  | ["nodes", id, "heartbeat"] => if id.isEmpty then none else some [("POST", nodeHeartbeat id)]
  | ["nodes", id, "enabled"] => if id.isEmpty then none else some [("POST", setNodeEnabled req id)]
  | _ => none

/-- Answers a request. A `HEAD` request is served as `GET` without a body. -/
def handle (req : Request) : SiteM Response := do
  let path := (req.path.splitOn "?").headD ""
  let found := match path.splitOn "/" with
    | "" :: "api" :: "v1" :: rest => route req rest
    | _ => none
  match found with
  | none => return failure 404 "not found"
  | some methods =>
    let head := req.method == "HEAD"
    match methods.find? (·.1 == (if head then "GET" else req.method)) with
    | none => return ⟨405, .text ""⟩
    | some (_, handler) =>
      let r ← handler
      return if head then ⟨r.status, .text ""⟩ else r

end Api

end LoadDispatch
