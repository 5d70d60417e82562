import LoadDispatch.Console.Basic
import LoadDispatch.Wire.Run
import LoadDispatch.Wire.Verdict
import LoadDispatch.Wire.Access
import LoadDispatch.Run.Script
import LoadDispatch.Scheduling.Failure
import LoadDispatch.Settings.Config
import LoadDispatch.Store.Lock
import LoadDispatch.Api.Envelope

/-!
Console operations without state: judging, sharding, writing threads into a script, classifying
agent replies, reading statuses and failures, request contexts and envelopes.
-/

namespace LoadDispatch

namespace Console

/-- Run samples of a judge request: summary, usage rows and case samples, each checked under its
own name. -/
def runSamples (req : Json) : Reply RunSamples :=
  match req.get? "samples" with
  | none | some .null => .ok {}
  | some s@(.obj _) => do
    let summary ← (Decoder.fieldOpt s "summary" SampleSummary.decode).mapError
      fun _ => badInput "samples.summary"
    let usage ← (Decoder.fieldOpt s "usage" (Decoder.list UsageSummary.decode)).mapError
      fun _ => badInput "samples.usage"
    let cases ← (Decoder.fieldOpt s "cases" (Decoder.list CaseSample.decode)).mapError
      fun _ => badInput "samples.cases"
    let usage := usage.getD []
    let cases := cases.getD []
    return { summary, usage, cases }
  | some _ => .error (badInput "samples")

def judgeOp (req : Json) : Reply Json := do
  let scriptType ← need req "script_type" ScriptType.decode
  let status ← need req "status" ExecutionStatus.decode
  let failureMessage ← optional req "failure_message" Decoder.string
  let indicator ← optional req "indicator" Indicator.decode
  let samples ← runSamples req
  let nodeIds ← withDefault req "node_ids" (Decoder.list Decoder.i64) []
  return (Verdict.judge scriptType status failureMessage indicator samples nodeIds).toJson

def judgeCasesOp (req : Json) : Reply Json := do
  let status ← need req "status" ExecutionStatus.decode
  let failureMessage ← optional req "failure_message" Decoder.string
  let cases ← withDefault req "cases" (Decoder.list ExecutionCase.decode) []
  let samples ← withDefault req "samples" (Decoder.list CaseSample.decode) []
  let verdicts := Verdict.judgeCases status failureMessage cases samples
  return .obj [("verdicts", Json.list CaseVerdict.toJson verdicts)]

def assertionsOp (req : Json) : Reply Json := do
  let samples ← withDefault req "samples" (Decoder.list CaseSample.decode) []
  return (AssertionSummary.ofSamples samples).toJson

/-- Shards a thread configuration: one shard, or the first shards in order. -/
def shardOp (req : Json) : Reply Json := do
  let config ← need req "config" ThreadConfig.decode
  let n ← need req "node_count" Decoder.u32
  match ← ifGiven req "first_shard" Decoder.bool with
  | some first => return (config.shard n first).toJson
  | none =>
    let count := min (max n 1) 64
    return .obj [("shards", .arr ((List.range count).map fun i => (config.shard n (i == 0)).toJson))]

def applyThreadsOp (req : Json) : Reply Json := do
  let script ← need req "script" Decoder.string
  let threads ← need req "threads" ThreadConfig.decode
  match applyThreads script threads with
  | .ok s => return .obj [("script", .str s)]
  | .error e => return errorAnswer e.kindName e.message

def classifyReplyOp (req : Json) : Reply Json := do
  let node ← need req "node_id" Decoder.i64
  let reply ← need req "reply" (AgentReply.decodeWith node none none)
  let tail ← need req "tail_chars" Decoder.u64
  return (reply.classify node tail).toJson

def consoleTailOp (req : Json) : Reply Json := do
  let lines ← withDefault req "lines" (Decoder.list Decoder.string) []
  let maxChars ← need req "max_chars" Decoder.u64
  return .obj [("tail", .str (consoleTail lines maxChars))]

/-- Reads a status or a script type; both fields are read as text before the kind is told. -/
def parseOp (req : Json) : Reply Json := do
  let what ← need req "what" Decoder.string
  let text ← need req "text" Decoder.string
  match what with
  | "status" =>
    match ExecutionStatus.parse text with
    | .ok s => return .obj [("status", s.toJson), ("terminal", .bool s.isTerminal)]
    | .error m => return errorAnswer "Parse" m
  | "script_type" =>
    match ScriptType.parse text with
    | .ok t => return .obj [("script_type", t.toJson)]
    | .error m => return errorAnswer "Parse" m
  | _ => throw (badInput "what")

def scriptErrorOf (f : Json) : Reply ScriptError := do
  match ← need f "script_error" (Decoder.oneOf [("Empty", 0), ("NotAnObject", 1), ("Parse", 2)]) with
  | 0 => return .empty
  | 1 => return .notAnObject
  | _ => return .parse (← need f "text" Decoder.string)

/-- Reads a scheduling failure named by its kind; a failure that is not an object has no kind. -/
def failureOf (f : Json) : Reply SchedulingFailure := do
  let kind ← need f "kind" Decoder.string
  let id := need f "id" Decoder.i64
  let text := need f "text" Decoder.string
  match kind with
  | "NotFound" => return .notFound (← id)
  | "Forbidden" => return .forbidden (← id)
  | "AlreadyRunning" => return .alreadyRunning (← id)
  | "MissingTargets" => return .missingTargets (← id)
  | "InFlight" => return .inFlight (← id)
  | "StartupTimeout" => return .startupTimeout (← id)
  | "NodeNotLive" => return .nodeNotLive (← id)
  | "QuotaExceeded" => return .quotaExceeded (← need f "limit" Decoder.u32)
  | "NoNodes" => return .noNodes (← text)
  | "BusinessRule" => return .businessRule (← text)
  | "Storage" => return .storage (← text)
  | "DispatchFailed" => return .dispatchFailed (← withDefault f "outcomes" (Decoder.list NodeOutcome.decode) [])
  | "InvalidScript" => return .invalidScript (← scriptErrorOf f)
  | "SelectionNoNodes" => return .ofSelection (.noNodes (← text))
  | "SelectionNodeNotLive" => return .ofSelection (.nodeNotLive (← id))
  | "SelectionStorage" => return .ofSelection (.storage (← text))
  | _ => throw (badInput "kind")

def failureOp (req : Json) : Reply Json := do
  let nodes ← withDefault req "node_ids" (Decoder.list Decoder.i64) []
  let failure ← failureOf ((req.get? "failure").getD .null)
  return .obj [("variant", .str failure.kindName), ("message", .str failure.message),
    ("transient", .bool failure.isTransient), ("resulting_status", failure.resultingStatus.toJson),
    ("outcomes", Json.list NodeOutcome.toJson failure.outcomes),
    ("node_outcomes", Json.list NodeOutcome.toJson (failure.nodeOutcomes nodes))]

def mayOperateOp (req : Json) : Reply Json := do
  let ctx ← need req "ctx" RequestContext.decode
  let tenant ← need req "tenant_id" Decoder.i64
  return .obj [("may_operate", .bool (ctx.mayOperate tenant)), ("system", .bool ctx.isSystem)]

def hostPrefixOp (req : Json) : Reply Json := do
  let id ← need req "instance_id" Decoder.string
  return .obj [("prefix", .str (hostPrefix id))]

def restartKeyOp (req : Json) : Reply Json := do
  let id ← need req "execution_id" Decoder.i64
  return .obj [("key", .str (restartKey id))]

def envelopeOp (req : Json) : Reply Json := do
  let kind ← need req "kind" Decoder.string
  let data ← withDefault req "data" Decoder.any .null
  let message ← optional req "message" Decoder.string
  match kind with
  | "ok" => return Api.envelope true none data
  | "error" => return Api.envelope false (some (message.getD "")) .null
  | "error_with" => return Api.envelope false (some (message.getD "")) data
  | _ => throw (badInput "kind")

end Console

end LoadDispatch
