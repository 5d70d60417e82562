import LoadDispatch.Console.World
import LoadDispatch.Console.Access
import LoadDispatch.Api.Target

/-!
A scenario is a world and a list of steps answered in turn; a refused step leaves the world as it
was and the scenario goes on. Orchestrator steps run as the system principal unless they give a
context, and answer with the execution as it is after the step.
-/

namespace LoadDispatch

namespace Console

def failureMembers (f : SchedulingFailure) : List (String × Json) :=
  [("error", .str f.kindName), ("message", .str f.message), ("transient", .bool f.isTransient)] ++
    match f with
    | .dispatchFailed os => [("outcomes", Json.list NodeOutcome.toJson os)]
    | _ => []

def storageError (message : String) : Json := errorAnswer "Storage" message

/-- An execution as the step sees it after running: `null` when missing or deleted. -/
def snapshot (w : World) (id : Int) : Json := Json.opt Execution.toJson (w.db.execution? id)

def poolOf : Decoder NodePool
  | .str "shared" => .ok .shared
  | .obj ms => match (Json.obj ms).get? "tenant" with
    | some t => NodePool.tenant <$> Decoder.i64 t
    | none => .error .here
  | _ => .error .here

def agentAnswer (node : Int) : Decoder AgentAnswer
  | .str "silent" => .ok .silent
  | .str "drop" => .ok .drop
  | j => AgentAnswer.reply <$> AgentReply.decodeWith node (some "") (some 0) j

def acceptingAnswer (node : Int) : AgentAnswer := .reply ⟨true, node, "accepted", [], 0⟩

/-- The answers a scripted agent gives: the default when none are named; an empty list is
refused. -/
def agentAnswers (step : Json) (node : Int) : Reply (List AgentAnswer) := do
  match ← optional step "replies" (Decoder.list (agentAnswer node)) with
  | some [] => throw (badInput "replies")
  | some answers => return answers
  | none => return [acceptingAnswer node]

def receivedCommands (w : World) : List Json :=
  (w.controllers.zipIdx.map fun (ctl, k) =>
    (sortBy (fun a b => decide (a.1 ≤ b.1)) ctl.router.received).map fun (node, cmd) =>
      Json.obj [("instance", .ofNat k), ("node", .ofInt node), ("action", .str cmd.action.text),
        ("execution_id", .ofInt cmd.executionId), ("script", .str cmd.script),
        ("is_test_task", .bool cmd.isTestTask), ("debug", .bool cmd.debug)]).flatten

def clearCommands (w : World) : World :=
  { w with controllers := w.controllers.map fun c => { c with router := { c.router with received := [] } } }

/-- The lock key a lock step names: the restart lock of `execution_id` when that reads as an
integer, `key` otherwise. -/
def lockKey (step : Json) : Reply String := do
  match (step.get? "execution_id").bind fun v => (Decoder.i64 v).toOption with
  | some id => return restartKey id
  | none => need step "key" Decoder.string

def headline (t : String) : String := (t.splitOn ": ").headD t

/-- The body a step sends: `raw` when it is a text, else `body` written as JSON, else an empty
body when either is given at all; none when neither is. -/
def stepBody (step : Json) : Option String :=
  match step.get? "raw", step.get? "body" with
  | some (.str s), _ => some s
  | _, some j => some j.render
  | some _, none => some ""
  | none, none => none

/-- Sends one request through an instance's router: header pairs are checked first (refused as
`headers`), then a method, target or content type the request cannot hold (refused as `path`). The
content type is the one given, none for `null`, and JSON when it is not a text and a body is sent.
-/
def httpStep (w : World) (k : Nat) (step : Json) : Reply (Json × World) := do
  let method ← need step "method" Decoder.string
  let path ← need step "path" Decoder.string
  let headers ← headersOf step "headers"
  let body := stepBody step
  let contentType := match step.get? "content_type" with
    | some .null => none
    | some (.str v) => some v
    | _ => if body.isSome then some "application/json" else none
  if !Headers.validName method then throw (badInput "path")
  let target ← (Api.Target.parse path).mapError fun _ => badInput "path"
  if !contentType.all Headers.validValue then throw (badInput "path")
  let headers := match contentType with
    | some v => headers.push "content-type" v
    | none => headers
  match w.runOn k (Api.handle { method, path := target.text, headers, body }) with
  | none => throw (badInput "instance")
  | some (r, w) =>
    let answer := match r.body with
      | .json j => Json.obj [("status", .ofNat r.status), ("body", j)]
      | .text t => Json.obj [("status", .ofNat r.status), ("text", .str (headline t))]
    return (answer, w)

def orchestrate {α : Type} (w : World) (k : Nat) (op : Orchestrator.Orch α) :
    Reply (Except SchedulingFailure α × World) :=
  match w.runOn k op.run with
  | some r => .ok r
  | none => .error (badInput "instance")

def onInstance {α : Type} (w : World) (k : Nat) (op : SiteM α) : Reply (α × World) :=
  match w.runOn k op with
  | some r => .ok r
  | none => .error (badInput "instance")

def outcomesStep (w : World) (id : Int) (r : Except SchedulingFailure (List NodeOutcome)) : Json :=
  match r with
  | .ok os => .obj [("outcomes", Json.list NodeOutcome.toJson os), ("execution", snapshot w id)]
  | .error f => .obj (failureMembers f ++ [("execution", snapshot w id)])

def done : Json := .obj [("ok", .bool true)]

def instanceOf (step : Json) : Nat := lenient step "instance" Decoder.u64 0

def contextOf (step : Json) : Reply RequestContext :=
  withDefault step "ctx" RequestContext.decode RequestContext.system

/-- Answers one step: the step kind is read first, then the instance, then the step's own fields,
and last the context of the steps that use one. -/
def runStep (w : World) (step : Json) : Reply (Json × World) := do
  let name ← need step "do" Decoder.string
  let k := instanceOf step
  if w.controllers.length ≤ k then throw (badInput "instance")
  let db := w.db
  let withDb (db : Database) : World := { w with db }
  match name with
  | "register" =>
    let reg ← (NodeRegistration.decode step).mapError fun _ => badInput "register"
    return (done, withDb (db.register reg w.now))
  | "heartbeat" =>
    let (known, db) := db.heartbeat (← need step "id" Decoder.i64) w.now
    return (.obj [("known", .bool known)], withDb db)
  | "set_enabled" =>
    let id ← need step "id" Decoder.i64
    return (done, withDb (db.setEnabled id (← need step "enabled" Decoder.bool)))
  | "stale" => return (done, withDb (db.forgetHeartbeat (← need step "id" Decoder.i64)))
  | "nodes" => return (.obj [("nodes", Json.list NodeInfo.toJson db.listNodes)], w)
  | "candidates" =>
    return (.obj [("nodes", Json.list NodeInfo.toJson (db.candidates (← need step "pool" poolOf)))], w)
  | "ownership" =>
    return (.obj [("ownership", .obj (db.ownership.map fun (ip, ids) => (ip, Json.list Json.ofInt ids)))], w)
  | "live_ids" =>
    let ids ← withDefault step "ids" (Decoder.list Decoder.i64) []
    let window ← need step "window_ms" Decoder.i64
    return (.obj [("live", Json.list Json.ofInt (db.liveIds ids window w.now))], w)
  | "select" =>
    let req : SelectionRequest :=
      { count := ← need step "count" Decoder.u32, pool := ← need step "pool" poolOf,
        available := ← optional step "available" (Decoder.list Decoder.i64),
        exclude := ← withDefault step "exclude" (Decoder.list Decoder.i64) [],
        strategy := ← need step "strategy" SelectionStrategy.decode,
        requireLive := lenient step "require_live" Decoder.bool true }
    match w.controllers[k]? with
    | some ctl =>
      let window := wrapI64 (ctl.config.dispatch.nodeLivenessSecs * 1000)
      let (r, probe) := select ctl.shuffle db w.now window w.probe req
      let w := { w with probe }
      match r with
      | .ok nodes => return (.obj [("picked", Json.list Json.ofInt (nodes.map (·.id)))], w)
      | .error e => return (errorAnswer e.kindName e.message, w)
    | none => throw (badInput "instance")
  | "agent" =>
    let node ← need step "node" Decoder.i64
    let closed := lenient step "closed" Decoder.bool false
    let answers ← if closed then pure [] else agentAnswers step node
    let (_, w) ← onInstance w k (Site.updateRouter fun r => ((), r.attach { node, closed, answers }))
    let base := [("attached", Json.ofInt node)]
    return (.obj (if closed then base ++ [("closed", .bool true)] else base), w)
  | "detach" =>
    let node ← need step "node" Decoder.i64
    let (_, w) ← onInstance w k (Site.updateRouter fun r => ((), r.detach node))
    return (.obj [("detached", .ofInt node)], w)
  | "is_local" =>
    let node ← need step "node" Decoder.i64
    let (isLocal, w) ← onInstance w k (Site.updateRouter fun r => (r.isLocal node, r))
    return (.obj [("local", .bool isLocal)], w)
  | "commands" => return (.obj [("commands", .arr (receivedCommands w))], clearCommands w)
  | "create" =>
    match db.create (← need step "execution" NewExecution.decode) with
    | .ok (id, db) => return (.obj [("id", .ofInt id)], withDb db)
    | .error m => return (storageError m, w)
  | "get" => return (.obj [("execution", snapshot w (← need step "id" Decoder.i64))], w)
  | "status" =>
    let id ← need step "id" Decoder.i64
    return (.obj [("status", Json.opt ExecutionStatus.toJson (db.status? id))], w)
  | "start" =>
    let req ← (StartRequest.decode step).mapError fun _ => badInput "start"
    let ctx ← contextOf step
    let (r, w) ← orchestrate w k (Orchestrator.start ctx req)
    return (outcomesStep w req.executionId r, w)
  | "stop" =>
    let req ← (StopRequest.decode step).mapError fun _ => badInput "stop"
    let ctx ← contextOf step
    let (r, w) ← orchestrate w k (Orchestrator.stop ctx req)
    return (outcomesStep w req.executionId r, w)
  | "delete" =>
    let ids ← withDefault step "ids" (Decoder.list Decoder.i64) []
    let ctx ← contextOf step
    let (report, w) ← onInstance w k (Orchestrator.delete ctx ids)
    return (report.toJson, w)
  | "complete" =>
    let id ← need step "id" Decoder.i64
    let report ← need step "report" CompletionReport.decode
    let ctx ← contextOf step
    let (r, w) ← orchestrate w k (Orchestrator.complete ctx id report)
    match r with
    | .ok result => return (.obj [("result", result.toJson), ("execution", snapshot w id)], w)
    | .error f => return (.obj (failureMembers f ++ [("execution", snapshot w id)]), w)
  | "update_threads" =>
    let id ← need step "id" Decoder.i64
    match db.updateThreads id (← need step "threads" ThreadConfig.decode) with
    | .ok db => let w := withDb db; return (.obj [("execution", snapshot w id)], w)
    | .error m => return (storageError m, w)
  | "set_status" =>
    let id ← need step "id" Decoder.i64
    return (done, withDb (db.setStatus id (← need step "status" ExecutionStatus.decode)))
  | "soft_delete" => return (done, withDb (db.softDelete (← need step "id" Decoder.i64) w.now))
  | "clear_run_state" => return (done, withDb (db.clearRunState (← need step "id" Decoder.i64)))
  | "add_nodes" =>
    let id ← need step "id" Decoder.i64
    let db := db.addNodes id (← withDefault step "nodes" (Decoder.list Decoder.i64) [])
    return (.obj [("node_ids", Json.list Json.ofInt (db.nodeIds id))], withDb db)
  | "remove_nodes" =>
    let id ← need step "id" Decoder.i64
    let db := db.removeNodes id (← withDefault step "nodes" (Decoder.list Decoder.i64) [])
    return (.obj [("node_ids", Json.list Json.ofInt (db.nodeIds id))], withDb db)
  | "settle_stop" =>
    let id ← need step "id" Decoder.i64
    let (s, db) := db.settleStop id (← need step "all_stopped" Decoder.bool) w.now
    return (.obj [("status", Json.opt ExecutionStatus.toJson s)], withDb db)
  | "finish" =>
    let id ← need step "id" Decoder.i64
    let status ← need step "status" ExecutionStatus.decode
    let w := withDb (db.finish id status (← optional step "failure_message" Decoder.string) w.now)
    return (.obj [("execution", snapshot w id)], w)
  | "samples" =>
    let s := db.loadSamples (← need step "id" Decoder.i64)
    return (.obj [("summary", Json.opt SampleSummary.toJson s.summary),
      ("usage", Json.list UsageSummary.toJson s.usage), ("cases", Json.list CaseSample.toJson s.cases)], w)
  | "cases" =>
    return (.obj [("cases", Json.list ExecutionCase.toJson (db.casesOf (← need step "id" Decoder.i64)))], w)
  | "counts" =>
    return (.obj [("counts", .obj (db.statusCounts.map fun (s, n) => (s.text, .ofNat n)))], w)
  | "count_running" =>
    let tenant ← need step "tenant_id" Decoder.i64
    let exclude ← need step "exclude" Decoder.i64
    return (.obj [("running", .ofNat (db.countRunning tenant exclude))], w)
  | "pending" =>
    let ids := db.pendingForRetry (← need step "max_attempts" Decoder.u32)
    return (.obj [("ids", Json.list Json.ofInt ids)], w)
  | "sweep" =>
    let (stats, w) ← onInstance w k (sweep (← need step "max_attempts" Decoder.u32))
    return (stats.toJson, w)
  | "result" =>
    let t ← need step "script_type" ScriptType.decode
    let source ← need step "source_id" Decoder.i64
    return (.obj [("result", Json.opt TestResult.toJson (db.currentResult t source))], w)
  | "case_results" =>
    let id ← need step "result_id" Decoder.i64
    return (.obj [("cases", Json.list TestCaseResult.toJson (db.caseResultsOf id))], w)
  | "lock_acquire" =>
    let key ← lockKey step
    let token ← need step "token" Decoder.string
    let (acquired, db) := db.tryAcquire key token (← need step "ttl_secs" Decoder.u64) w.now
    return (.obj [("acquired", .bool acquired)], withDb db)
  | "lock_get" => return (.obj [("holder", Json.optStr (db.lockHolder (← lockKey step) w.now))], w)
  | "lock_release" =>
    let key ← lockKey step
    let db := db.release key (← need step "token" Decoder.string)
    return (.obj [("holder", Json.optStr (db.lockHolder key w.now))], withDb db)
  | "http" => httpStep w k step
  | _ => throw (badInput "do")

/-- Answers the steps in turn; a refused step leaves the world unchanged. -/
def runSteps (w : World) : List Json → List Json
  | [] => []
  | step :: rest =>
    match runStep w step with
    | .ok (answer, w) => answer :: runSteps w rest
    | .error answer => answer :: runSteps w rest

def scenarioOp (req : Json) : Reply Json := do
  let w ← worldOf req
  let steps ← withDefault req "steps" (Decoder.list Decoder.any) []
  return .obj [("steps", .arr (runSteps w steps))]

end Console

end LoadDispatch
