import LoadDispatch.Run.Outcome
import LoadDispatch.Run.Status
import LoadDispatch.Run.Script

/-!
The causes that stop a start or a stop of an execution. No node meeting the conditions and a chosen
node that is not live are transient and leave the execution `PENDING`; every other cause fails it.
-/

namespace LoadDispatch

/-- Why node selection found nothing to use. -/
inductive SelectionError where
  | noNodes (reason : String)
  | nodeNotLive (node : Int)
  | storage (text : String)
  deriving DecidableEq, Repr

namespace SelectionError

def message : SelectionError → String
  | .noNodes reason => "no nodes meet conditions: " ++ reason
  | .nodeNotLive node => "selected node " ++ toString node ++ " is not live"
  | .storage text => text

def kindName : SelectionError → String
  | .noNodes _ => "NoNodes"
  | .nodeNotLive _ => "NodeNotLive"
  | .storage _ => "Storage"

end SelectionError

/-- Why a start or stop of an execution did not go through. -/
inductive SchedulingFailure where
  | notFound (id : Int)
  | forbidden (id : Int)
  | alreadyRunning (id : Int)
  | missingTargets (id : Int)
  | inFlight (id : Int)
  | quotaExceeded (limit : Nat)
  | invalidScript (e : ScriptError)
  | noNodes (reason : String)
  | nodeNotLive (node : Int)
  | businessRule (text : String)
  | startupTimeout (id : Int)
  | dispatchFailed (outcomes : List NodeOutcome)
  | storage (text : String)
  deriving DecidableEq, Repr

namespace SchedulingFailure

def message : SchedulingFailure → String
  | .notFound id => "execution " ++ toString id ++ " not found"
  | .forbidden id => "not permitted to operate execution " ++ toString id
  | .alreadyRunning id => "execution " ++ toString id ++ " is already running"
  | .missingTargets id => "relayed request for execution " ++ toString id ++ " names no target nodes"
  | .inFlight id => "execution " ++ toString id ++ " is already being dispatched"
  | .quotaExceeded limit => "concurrent execution quota of " ++ toString limit ++ " reached"
  | .invalidScript e => "script cannot be prepared: " ++ e.message
  | .noNodes reason => "no nodes meet conditions: " ++ reason
  | .nodeNotLive node => "selected node " ++ toString node ++ " is not live"
  | .businessRule text => text
  | .startupTimeout id =>
    "startup timeout: dispatch lock of execution " ++ toString id ++ " is no longer held"
  | .dispatchFailed _ => "dispatch failed on every node"
  | .storage text => text

def kindName : SchedulingFailure → String
  | .notFound _ => "NotFound"
  | .forbidden _ => "Forbidden"
  | .alreadyRunning _ => "AlreadyRunning"
  | .missingTargets _ => "MissingTargets"
  | .inFlight _ => "InFlight"
  | .quotaExceeded _ => "QuotaExceeded"
  | .invalidScript _ => "InvalidScript"
  | .noNodes _ => "NoNodes"
  | .nodeNotLive _ => "NodeNotLive"
  | .businessRule _ => "BusinessRule"
  | .startupTimeout _ => "StartupTimeout"
  | .dispatchFailed _ => "DispatchFailed"
  | .storage _ => "Storage"

/-- No node met the conditions, or a chosen one is not live: worth retrying later. -/
def isTransient : SchedulingFailure → Bool
  | .noNodes _ | .nodeNotLive _ => true
  | _ => false

/-- The status a recorded failure leaves the execution in. -/
def resultingStatus (f : SchedulingFailure) : ExecutionStatus :=
  if f.isTransient then .pending else .failed

/-- The outcomes of a failure: its own for a failed dispatch, else one scheduling outcome. -/
def outcomes : SchedulingFailure → List NodeOutcome
  | .dispatchFailed os => os
  | f => [NodeOutcome.failed none .scheduling f.message]

def nodeOutcomes (f : SchedulingFailure) (nodes : List Int) : List NodeOutcome :=
  match f with
  | .dispatchFailed os => os
  | _ => nodes.map fun n => NodeOutcome.failed (some n) .scheduling f.message

def ofSelection : SelectionError → SchedulingFailure
  | .noNodes reason => .noNodes reason
  | .nodeNotLive node => .nodeNotLive node
  | .storage text => .storage text

end SchedulingFailure

end LoadDispatch
