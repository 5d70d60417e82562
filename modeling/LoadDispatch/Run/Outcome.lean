/-!
What happened to a command on one node: accepted, refused by the agent, a crash of the runner while
starting, no route, a broken link, or a failure of scheduling before any node was asked.
-/

namespace LoadDispatch

/-- The kind of a node outcome. -/
inductive OutcomeKind where
  | accepted
  | agentError
  | startException
  | routerNotFound
  | transport
  | scheduling
  deriving DecidableEq, Repr, Inhabited

namespace OutcomeKind

def text : OutcomeKind → String
  | .accepted => "accepted"
  | .agentError => "agent_error"
  | .startException => "start_exception"
  | .routerNotFound => "router_not_found"
  | .transport => "transport"
  | .scheduling => "scheduling"

def all : List OutcomeKind :=
  [.accepted, .agentError, .startException, .routerNotFound, .transport, .scheduling]

end OutcomeKind

/-- The result of one command on one node (or of scheduling, with no node). -/
structure NodeOutcome where
  nodeId : Option Int
  success : Bool
  kind : OutcomeKind
  message : String
  deriving DecidableEq, Repr, Inhabited

namespace NodeOutcome

def accepted (node : Int) (message : String) : NodeOutcome := ⟨some node, true, .accepted, message⟩

def failed (node : Option Int) (kind : OutcomeKind) (message : String) : NodeOutcome :=
  ⟨node, false, kind, message⟩

def routerNotFound (node : Int) : NodeOutcome :=
  failed (some node) .routerNotFound ("router not found for node " ++ toString node)

/-- A non-empty list of outcomes that are all failures of the link to the agent. -/
def allTransport (os : List NodeOutcome) : Bool :=
  !os.isEmpty && os.all fun o => !o.success && o.kind == .transport

/-- The nodes whose command succeeded, in outcome order. -/
def succeeded (os : List NodeOutcome) : List Int :=
  os.filterMap fun o => if o.success then o.nodeId else none

end NodeOutcome

end LoadDispatch
