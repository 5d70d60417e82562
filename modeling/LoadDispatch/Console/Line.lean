import LoadDispatch.Console.Access
import LoadDispatch.Json.Reader
import LoadDispatch.Console.Settings
import LoadDispatch.Console.Scenario

/-!
A line holds one JSON request whose `op` names the operation; the answer is one compact JSON line.
-/

namespace LoadDispatch

namespace Console

def answer (req : Json) : Json :=
  let op := match req.get? "op" with
    | some (.str s) => s
    | _ => ""
  let run (f : Json → Reply Json) : Json := match f req with
    | .ok j => j
    | .error j => j
  match op with
  | "judge" => run judgeOp
  | "judge_cases" => run judgeCasesOp
  | "assertions" => run assertionsOp
  | "shard" => run shardOp
  | "apply_threads" => run applyThreadsOp
  | "classify_reply" => run classifyReplyOp
  | "console_tail" => run consoleTailOp
  | "parse" => run parseOp
  | "failure" => run failureOp
  | "context" => run contextOp
  | "may_operate" => run mayOperateOp
  | "host_prefix" => run hostPrefixOp
  | "restart_key" => run restartKeyOp
  | "envelope" => run envelopeOp
  | "config" => run configOp
  | "scenario" => run scenarioOp
  | _ => .obj [("error", .str "unknown_op"), ("op", .str op)]

/-- The answer line to a request line. -/
def answerLine (line : String) : String :=
  match Json.parse line with
  | .ok req => (mask (answer req)).render
  | .error _ => (badInput "line").render

end Console

end LoadDispatch
