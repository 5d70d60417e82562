import LoadDispatch.Wire.Run
import LoadDispatch.Wire.Verdict
import LoadDispatch.Wire.Timestamp
import LoadDispatch.Settings.Config
import LoadDispatch.Cluster.Sweep

/-!
Executions, nodes, test results and the orchestrator's requests and reports in the JSON shapes of
the HTTP API; records may also be read from arrays of their fields in order.
-/

namespace LoadDispatch

open Shape

def Timestamp.toJson (t : Option Int) : Json := Json.opt (fun ms => .str (Timestamp.rfc3339 ms)) t

namespace Execution

/-- An execution as JSON. -/
def toJson (e : Execution) : Json :=
  .obj [("id", .ofInt e.id), ("tenant_id", .ofInt e.tenantId), ("script_type", e.scriptType.toJson),
    ("script_source_id", Json.optInt e.scriptSourceId), ("status", e.status.toJson),
    ("threads", e.threads.toJson), ("original_threads", Json.opt ThreadConfig.toJson e.originalThreads),
    ("trial", .bool e.trial), ("debug", .bool e.debug), ("node_count", .ofNat e.nodeCount),
    ("node_pool", Json.opt (Json.list Json.ofInt) e.nodePool),
    ("strategy", Json.opt SelectionStrategy.toJson e.strategy),
    ("node_ids", Json.list Json.ofInt e.nodeIds), ("schedule_count", .ofNat e.scheduleCount),
    ("schedule_result", Json.list NodeOutcome.toJson e.scheduleResult),
    ("schedule_time", Timestamp.toJson e.scheduleTime), ("start_time", Timestamp.toJson e.startTime),
    ("end_time", Timestamp.toJson e.endTime), ("script", .str e.script),
    ("indicator", Json.opt Indicator.toJson e.indicator),
    ("failure_message", Json.optStr e.failureMessage)]

end Execution

namespace NewExecution

/-- The shape of a submitted execution. -/
def shape : Shape :=
  record [needed "tenant_id" i64, needed "script_type" ScriptType.shape,
    defaulted "script_source_id" (optional i64), needed "threads" ThreadConfig.shape,
    defaulted "trial" bool, defaulted "debug" bool, defaulted "node_count" u32,
    defaulted "node_pool" (optional (list i64)),
    defaulted "strategy" (optional SelectionStrategy.shape), needed "script" text,
    defaulted "indicator" (optional Indicator.shape), defaulted "cases" (list ExecutionCase.shape)]

def decode : Decoder NewExecution := fun j => do
  let j ← Decoder.record shape.fieldSpecs j
  return {
    tenantId := ← Decoder.field j "tenant_id" Decoder.i64
    scriptType := ← Decoder.field j "script_type" ScriptType.decode
    scriptSourceId := ← Decoder.fieldOpt j "script_source_id" Decoder.i64
    threads := ← Decoder.field j "threads" ThreadConfig.decode
    trial := ← Decoder.fieldOr j "trial" Decoder.bool false
    debug := ← Decoder.fieldOr j "debug" Decoder.bool false
    nodeCount := ← Decoder.fieldOr j "node_count" Decoder.u32 1
    nodePool := ← Decoder.fieldOpt j "node_pool" (Decoder.list Decoder.i64)
    strategy := ← Decoder.fieldOpt j "strategy" SelectionStrategy.decode
    script := ← Decoder.field j "script" Decoder.string
    indicator := ← Decoder.fieldOpt j "indicator" Indicator.decode
    cases := ← Decoder.fieldOr j "cases" (Decoder.list ExecutionCase.decode) [] }

end NewExecution

namespace NodeInfo

def toJson (n : NodeInfo) : Json :=
  .obj [("id", .ofInt n.id), ("tenant_id", Json.optInt n.tenantId), ("name", .str n.name),
    ("controller_ip", .str n.controllerIp), ("enabled", .bool n.enabled),
    ("last_heartbeat_ms", .ofInt n.lastHeartbeatMs), ("active_executions", .ofNat n.activeExecutions)]

end NodeInfo

namespace NodeRegistration

def toJson (r : NodeRegistration) : Json :=
  .obj [("id", .ofInt r.id), ("tenant_id", Json.optInt r.tenantId), ("name", .str r.name),
    ("controller_ip", .str r.controllerIp)]

def shape : Shape :=
  record [needed "id" i64, defaulted "tenant_id" (optional i64), needed "name" text,
    needed "controller_ip" text]

def decode : Decoder NodeRegistration := fun j => do
  let j ← Decoder.record shape.fieldSpecs j
  return { id := ← Decoder.field j "id" Decoder.i64
           tenantId := ← Decoder.fieldOpt j "tenant_id" Decoder.i64
           name := ← Decoder.field j "name" Decoder.string
           controllerIp := ← Decoder.field j "controller_ip" Decoder.string }

end NodeRegistration

namespace TestResult

def toJson (r : TestResult) : Json :=
  .obj [("id", .ofInt r.id), ("script_type", r.scriptType.toJson),
    ("script_source_id", .ofInt r.scriptSourceId), ("execution_id", .ofInt r.executionId),
    ("passed", .bool r.passed), ("failure_reason", Json.optStr r.failureReason),
    ("usage_failed_node_id", Json.optInt r.usageFailedNodeId),
    ("indicator", Json.opt Indicator.toJson r.indicator),
    ("summary", Json.opt SampleSummary.toJson r.summary), ("assertions", r.assertions.toJson),
    ("usage", Json.list UsageSummary.toJson r.usage), ("times_run", .ofNat r.timesRun),
    ("times_failed", .ofNat r.timesFailed)]

end TestResult

namespace TestCaseResult

def toJson (c : TestCaseResult) : Json :=
  .obj [("case_id", .ofInt c.caseId), ("execution_id", .ofInt c.executionId),
    ("passed", Json.opt Json.bool c.passed), ("failure_reason", Json.optStr c.failureReason)]

end TestCaseResult

namespace ShardPlan

def shape : Shape := record [needed "total" u32, needed "first_node_id" i64]

def decode : Decoder ShardPlan := fun j => do
  let j ← Decoder.record shape.fieldSpecs j
  return { total := ← Decoder.field j "total" Decoder.u32
           firstNodeId := ← Decoder.field j "first_node_id" Decoder.i64 }

end ShardPlan

namespace StartRequest

def shape : Shape :=
  record [needed "execution_id" i64, defaulted "node_ids" (list i64), defaulted "broadcast" bool,
    defaulted "shard_plan" (optional ShardPlan.shape)]

def decode : Decoder StartRequest := fun j => do
  let j ← Decoder.record shape.fieldSpecs j
  return { executionId := ← Decoder.field j "execution_id" Decoder.i64
           nodeIds := ← Decoder.fieldOr j "node_ids" (Decoder.list Decoder.i64) []
           broadcast := ← Decoder.fieldOr j "broadcast" Decoder.bool true
           shardPlan := ← Decoder.fieldOpt j "shard_plan" ShardPlan.decode }

end StartRequest

namespace StopRequest

def shape : Shape :=
  record [needed "execution_id" i64, defaulted "node_ids" (list i64), defaulted "broadcast" bool]

def decode : Decoder StopRequest := fun j => do
  let j ← Decoder.record shape.fieldSpecs j
  return { executionId := ← Decoder.field j "execution_id" Decoder.i64
           nodeIds := ← Decoder.fieldOr j "node_ids" (Decoder.list Decoder.i64) []
           broadcast := ← Decoder.fieldOr j "broadcast" Decoder.bool true }

end StopRequest

namespace CompletionReport

def shape : Shape :=
  record [needed "status" ExecutionStatus.shape, defaulted "failure_message" (optional text),
    defaulted "summary" (optional SampleSummary.shape), defaulted "usage" (list UsageSummary.shape),
    defaulted "cases" (list CaseSample.shape)]

def decode : Decoder CompletionReport := fun j => do
  let j ← Decoder.record shape.fieldSpecs j
  return { status := ← Decoder.field j "status" ExecutionStatus.decode
           failureMessage := ← Decoder.fieldOpt j "failure_message" Decoder.string
           summary := ← Decoder.fieldOpt j "summary" SampleSummary.decode
           usage := ← Decoder.fieldOr j "usage" (Decoder.list UsageSummary.decode) []
           cases := ← Decoder.fieldOr j "cases" (Decoder.list CaseSample.decode) [] }

end CompletionReport

namespace DeleteReport

def toJson (r : DeleteReport) : Json :=
  .obj [("deleted", Json.list Json.ofInt r.deleted), ("skipped", Json.list Json.ofInt r.skipped),
    ("failed", Json.list (fun (f : DeleteFailure) =>
      .obj [("execution_id", .ofInt f.executionId), ("message", .str f.message)]) r.failed)]

end DeleteReport

namespace SweepStats

def toJson (s : SweepStats) : Json :=
  .obj [("attempted", .ofNat s.attempted), ("started", .ofNat s.started),
    ("deferred", .ofNat s.deferred), ("failed", .ofNat s.failed)]

end SweepStats

end LoadDispatch
