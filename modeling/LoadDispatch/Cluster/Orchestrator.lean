import LoadDispatch.Cluster.Site
import LoadDispatch.Cluster.Relay
import LoadDispatch.Access.Context

/-!
The execution state machine: start, stop, delete and completion. A broadcast start runs under the
execution's restart lock: it checks the quota, prepares the script, selects nodes, marks the
execution `SCHEDULING`, dispatches, relays what it cannot route and records the round. A stop is
refused while a start holds the lock; it unlinks the nodes that stopped and settles the status.
-/

namespace LoadDispatch

namespace Orchestrator

/-- An orchestrator operation: a result or the failure that stopped it. -/
abbrev Orch := ExceptT SchedulingFailure SiteM

def site {α : Type} (x : SiteM α) : Orch α := ExceptT.lift x

def modifyDb (f : Database → Database) : Orch Unit := site (Site.modifyDb f)

def updateDb {α : Type} (f : Database → α × Database) : Orch α := site (Site.updateDb f)

def liftResult {α : Type} (r : Except SchedulingFailure α) : Orch α := ExceptT.mk (pure r)

/-- A live execution the caller may operate. -/
def load (ctx : RequestContext) (id : Int) : Orch Execution := do
  match (← get).db.execution? id with
  | none => throw (.notFound id)
  | some e => if ctx.mayOperate e.tenantId then pure e else throw (.forbidden id)

/-- The tenant may not start another execution while it has as many running as its quota. -/
def checkQuota (exec : Execution) : Orch Unit := do
  let s ← get
  let limit := s.ctl.config.maxConcurrentExecutions
  if s.db.countRunning exec.tenantId exec.id ≥ limit then throw (.quotaExceeded limit)

def recordFailure (id : Int) (f : SchedulingFailure) : SiteM SchedulingFailure := do
  let now := (← get).now
  Site.modifyDb (·.recordSchedule id f.resultingStatus f.outcomes (some f.message) now)
  return f

def recorded {α : Type} (id : Int) (step : Orch α) : Orch α := do
  match ← site step.run with
  | .ok a => pure a
  | .error f => throw (← site (recordFailure id f))

def prepareScript (exec : Execution) : Except SchedulingFailure String :=
  (applyThreads exec.script exec.shardBase).mapError .invalidScript

def selectWith (req : SelectionRequest) : Orch (List Int) := do
  let s ← get
  let window := wrapI64 (s.ctl.config.dispatch.nodeLivenessSecs * 1000)
  let (r, cursor) := select s.ctl.shuffle s.db s.now window s.ctl.cursor req
  set { s with ctl := { s.ctl with cursor } }
  match r with
  | .ok nodes => pure (nodes.map (·.id))
  | .error e => throw (SchedulingFailure.ofSelection e)

def trialViolation (limits : TrialSettings) (exec : Execution) : Option String :=
  let t := exec.shardBase
  if exec.nodeCount > limits.maxNodes then
    some ("trial runs may use at most " ++ toString limits.maxNodes ++ " nodes")
  else if t.threadCount > limits.maxThreads then
    some ("trial runs may use at most " ++ toString limits.maxThreads ++ " threads")
  else if t.iterationCount > limits.maxIterations then
    some ("trial runs may use at most " ++ toString limits.maxIterations ++ " iterations")
  else if t.durationSecs.getD 0 > limits.maxDurationSecs then
    some ("trial runs may last at most " ++ toString limits.maxDurationSecs ++ "s")
  else none

def selectTrialNodes (exec : Execution) : Orch (List Int) := do
  let cfg := (← get).ctl.config
  if exec.trial then
    match trialViolation cfg.trial exec with
    | some rule => throw (.businessRule rule)
    | none => pure ()
  selectWith { count := min exec.nodeCount (max cfg.trial.maxNodes 1), pool := .shared,
               strategy := .idlePreferred, requireLive := cfg.dispatch.requireLive }

/-- The nodes of a start: shared nodes for a trial execution or a trial tenant, else (or when a
trial tenant finds none) the tenant's own, restricted to the requested nodes or to the execution's
pool. -/
def selectNodes (ctx : RequestContext) (exec : Execution) (requested : List Int) :
    Orch (List Int) := do
  let cfg := (← get).ctl.config
  if exec.trial || ctx.trialTenant then
    match ← site (selectTrialNodes exec).run with
    | .ok nodes => return nodes
    | .error (.businessRule r) => throw (.businessRule r)
    | .error (.noNodes reason) =>
      if exec.trial then throw (.businessRule ("no trial nodes available: " ++ reason))
    | .error e => if exec.trial then throw e
  selectWith { count := exec.nodeCount, pool := .tenant exec.tenantId,
               available := if requested.isEmpty then exec.nodePool else some requested,
               strategy := exec.strategy.getD cfg.dispatch.defaultStrategy,
               requireLive := cfg.dispatch.requireLive }

def shardCommands (exec : Execution) (script : String) (targets : List Int) (plan : ShardPlan) :
    Except SchedulingFailure (List (Int × AgentCommand)) :=
  (targets.mapM fun node => do
    let s ← applyThreads script (plan.share exec.shardBase node)
    return (node, ({ action := .run, executionId := exec.id, script := s, isTestTask := exec.trial, debug := exec.debug } : AgentCommand))).mapError .invalidScript

def dispatchLocal (cmds : List (Int × AgentCommand)) : SiteM (List NodeOutcome × List Int) :=
  Site.updateRouter fun r => let (os, unrouted, r) := r.dispatchAll cmds; ((os, unrouted), r)

def relayNodes (post : PeerInstance → List Int → Option (List NodeOutcome)) (nodes : List Int) :
    SiteM (List NodeOutcome) := do
  if nodes.isEmpty then return []
  let s ← get
  let cfg := s.ctl.config
  return relay post cfg.cluster.peers s.db.ownership (hostPrefix cfg.controller.instanceId) nodes

/-- The status after a dispatch round: `RUNNING` once any node accepted, `FAILED` when every runner
failed to start, otherwise the status from before; the first message is kept. -/
def judgeDispatch (prior : ExecutionStatus) (os : List NodeOutcome) :
    ExecutionStatus × Option String :=
  if os.any (·.success) then (.running, none)
  else if !os.isEmpty && os.all (·.kind == .startException) then (.failed, os.head?.map (·.message))
  else (prior, os.head?.map (·.message))

/-- A broadcast start once the lock is held. -/
def startPrimary (ctx : RequestContext) (exec : Execution) (req : StartRequest) :
    Orch (List NodeOutcome) := do
  let prior := exec.status
  recorded exec.id (checkQuota exec)
  let script ← recorded exec.id (liftResult (prepareScript exec))
  let targets ← recorded exec.id (selectNodes ctx exec req.nodeIds)
  Site.modifyDb (·.setStatus exec.id .scheduling)
  Site.modifyDb (·.clearRunState exec.id)
  let plan := ShardPlan.over targets
  let cmds ← recorded exec.id (liftResult (shardCommands exec script targets plan))
  let (outcomes, unrouted) ← site <| dispatchLocal cmds
  if unrouted.isEmpty && NodeOutcome.allTransport outcomes then
    throw (← site (recordFailure exec.id (.dispatchFailed outcomes)))
  let siblings := (← get).siblings
  let relayed ← site <| relayNodes
    (fun peer targets => siblings.start peer (.relayed exec.id plan targets)) unrouted
  let outcomes := outcomes ++ relayed
  Site.modifyDb (·.addNodes exec.id (NodeOutcome.succeeded outcomes))
  let (status, message) := judgeDispatch prior outcomes
  let now := (← get).now
  Site.modifyDb (·.recordSchedule exec.id status outcomes message now)
  return outcomes

/-- A relayed start: the named targets only, while the sender holds the lock. -/
def startSecondary (exec : Execution) (req : StartRequest) : Orch (List NodeOutcome) := do
  let script ← liftResult (prepareScript exec)
  let s ← get
  if s.db.lockHolder (restartKey exec.id) s.now != some (toString exec.id) then
    throw (.startupTimeout exec.id)
  let plan := req.shardPlan.getD (ShardPlan.over req.nodeIds)
  let cmds ← liftResult (shardCommands exec script req.nodeIds plan)
  let (outcomes, unrouted) ← site <| dispatchLocal cmds
  let outcomes := outcomes ++ unrouted.map NodeOutcome.routerNotFound
  if NodeOutcome.allTransport outcomes then throw (.dispatchFailed outcomes)
  return outcomes

/-- Starts an execution. -/
def start (ctx : RequestContext) (req : StartRequest) : Orch (List NodeOutcome) := do
  let exec ← load ctx req.executionId
  if req.broadcast then
    if exec.status == .running then throw (.alreadyRunning exec.id)
    checkQuota exec
  else if req.nodeIds.isEmpty then throw (.missingTargets exec.id)
  if !req.broadcast then startSecondary exec req
  else
    let key := restartKey exec.id
    let token := toString exec.id
    let s ← get
    let acquired ← updateDb fun db =>
      db.tryAcquire key token s.ctl.config.dispatch.lockTtlSecs s.now
    if !acquired then throw (.inFlight exec.id)
    let r ← site (startPrimary ctx exec req).run
    modifyDb (·.release key token)
    liftResult r

/-- Stops an execution on its nodes, or on the named ones. -/
def stop (ctx : RequestContext) (req : StopRequest) : Orch (List NodeOutcome) := do
  let exec ← load ctx req.executionId
  if !req.broadcast && req.nodeIds.isEmpty then throw (.missingTargets exec.id)
  let s ← get
  if (s.db.lockHolder (restartKey exec.id) s.now).isSome then throw (.inFlight exec.id)
  let targets := if req.nodeIds.isEmpty then exec.nodeIds else req.nodeIds
  let (outcomes, unrouted) ← site <| dispatchLocal (targets.map fun n => (n, AgentCommand.stopOf exec.id))
  if !req.broadcast then return outcomes ++ unrouted.map NodeOutcome.routerNotFound
  let siblings := (← get).siblings
  let relayed ← site <| relayNodes (fun peer targets => siblings.stop peer
    { executionId := exec.id, nodeIds := targets, broadcast := false }) unrouted
  let outcomes := outcomes ++ relayed
  let now := (← get).now
  modifyDb (·.removeNodes exec.id (NodeOutcome.succeeded outcomes))
  let _ ← updateDb fun db =>
    db.settleStop exec.id (outcomes.all (·.success)) now
  return outcomes

/-- Deletes one execution: skipped while a start holds its lock, stopped first when running;
true when it was deleted. -/
def deleteOne (ctx : RequestContext) (id : Int) : Orch Bool := do
  let exec ← load ctx id
  let s ← get
  if (s.db.lockHolder (restartKey id) s.now).isSome then return false
  if exec.status == .running then
    let _ ← stop ctx { executionId := id }
  let now := (← get).now
  modifyDb (·.softDelete id now)
  return true

/-- Deletes executions one by one; a failure is reported and the batch goes on. -/
def delete (ctx : RequestContext) (ids : List Int) : SiteM DeleteReport :=
  ids.foldlM (fun rep id => do
    match ← (deleteOne ctx id).run with
    | .ok true => return { rep with deleted := rep.deleted ++ [id] }
    | .ok false => return { rep with skipped := rep.skipped ++ [id] }
    | .error f => return { rep with failed := rep.failed ++ [⟨id, f.message⟩] }) {}

/-- Records a finished run and judges it against the nodes it ran on. -/
def complete (ctx : RequestContext) (id : Int) (report : CompletionReport) : Orch TestResult := do
  let exec ← load ctx id
  if !report.status.isTerminal then
    throw (.businessRule ("completion status must be terminal, got " ++ report.status.text))
  let samples : RunSamples := ⟨report.summary, report.usage, report.cases⟩
  let now := (← get).now
  modifyDb (·.saveSamples id samples)
  modifyDb (·.finish id report.status report.failureMessage now)
  let ranOn := exec.nodeIds
  modifyDb (·.removeNodes id ranOn)
  let exec ← load ctx id
  let verdict := Verdict.judge exec.scriptType exec.status exec.failureMessage exec.indicator
    samples ranOn
  let cases := (← get).db.casesOf id
  let caseVerdicts := Verdict.judgeCases exec.status exec.failureMessage cases samples.cases
  updateDb fun db => db.recordResult exec verdict samples caseVerdicts

end Orchestrator

end LoadDispatch
