import LoadDispatch.Store.Tables

/-!
Requests to the orchestrator. The instance that receives a start or stop broadcasts it; a relayed
request names its targets and, for a start, how the load is shared among all the nodes of the round.
-/

namespace LoadDispatch

/-- How a relayed start shares the load: over `total` nodes, the remainder going to
`firstNodeId`. -/
structure ShardPlan where
  total : Nat
  firstNodeId : Int
  deriving DecidableEq, Repr

def ShardPlan.over (targets : List Int) : ShardPlan := ⟨targets.length, targets.headD 0⟩

def ShardPlan.share (plan : ShardPlan) (c : ThreadConfig) (node : Int) : ThreadConfig :=
  c.shard plan.total (node == plan.firstNodeId)

/-- A start of an execution. -/
structure StartRequest where
  executionId : Int
  nodeIds : List Int := []
  broadcast : Bool := true
  shardPlan : Option ShardPlan := none
  deriving DecidableEq, Repr

/-- The start a primary relays to a sibling: the targets offered to it, with the round's plan. -/
def StartRequest.relayed (executionId : Int) (plan : ShardPlan) (targets : List Int) :
    StartRequest :=
  { executionId, nodeIds := targets, broadcast := false, shardPlan := some plan }

/-- A stop of an execution. -/
structure StopRequest where
  executionId : Int
  nodeIds : List Int := []
  broadcast : Bool := true
  deriving DecidableEq, Repr

structure CompletionReport where
  status : ExecutionStatus
  failureMessage : Option String := none
  summary : Option SampleSummary := none
  usage : List UsageSummary := []
  cases : List CaseSample := []

structure DeleteFailure where
  executionId : Int
  message : String
  deriving DecidableEq, Repr

structure DeleteReport where
  deleted : List Int := []
  /-- Executions left alone because a start was in flight. -/
  skipped : List Int := []
  failed : List DeleteFailure := []
  deriving DecidableEq, Repr

end LoadDispatch
