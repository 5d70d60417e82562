import LoadDispatch.Agent.Reply

/-!
Routes to the agents of the nodes connected to an instance, one per node. The agents answer from a
script: the n-th command gets the n-th answer, the last repeating, and an empty script drops every
command. Every command an agent receives is kept in the instance's log.
-/

namespace LoadDispatch

inductive AgentAction where
  | run
  | stop
  deriving DecidableEq, Repr

def AgentAction.text : AgentAction → String
  | .run => "run"
  | .stop => "stop"

structure AgentCommand where
  action : AgentAction
  executionId : Int
  /-- The script with the node's share of the load; empty for a stop. -/
  script : String
  isTestTask : Bool
  debug : Bool
  deriving DecidableEq, Repr

def AgentCommand.stopOf (execution : Int) : AgentCommand := ⟨.stop, execution, "", false, false⟩

inductive AgentAnswer where
  | reply (r : AgentReply)
  | silent
  | drop
  deriving DecidableEq, Repr

/-- A route to a node's agent. -/
structure Route where
  node : Int
  /-- Which connection of the node the route leads to: a sender read from a route stays on it. -/
  link : Nat := 0
  /-- The agent behind the route is gone. -/
  closed : Bool := false
  answers : List AgentAnswer
  /-- Commands answered so far. -/
  served : Nat := 0
  deriving Repr

/-- The routes of an instance. -/
structure Router where
  routes : List Route := []
  timeoutMs : Nat
  tailChars : Nat
  /-- Commands received by the agents, with their nodes, in arrival order. -/
  received : List (Int × AgentCommand) := []
  deriving Repr

/-- The answer a route gives to its next command. -/
def Route.nextAnswer (route : Route) : AgentAnswer :=
  match route.answers[route.served]? with
  | some a => a
  | none => route.answers.getLast?.getD .drop

namespace Router

def attach (r : Router) (route : Route) : Router :=
  { r with routes := r.routes.filter (·.node != route.node) ++ [route] }

def detach (r : Router) (node : Int) : Router :=
  { r with routes := r.routes.filter (·.node != node) }

def isLocal (r : Router) (node : Int) : Bool := r.routes.any fun x => x.node == node && !x.closed

/-- The outcome of a node's next command over a route: the agent's reply, or a transport failure
when the agent stays silent past the timeout or drops the command. -/
def answerOf (r : Router) (route : Route) (node : Int) : NodeOutcome :=
  match route.nextAnswer with
  | .reply reply => reply.classify node r.tailChars
  | .silent => NodeOutcome.failed (some node) .transport
      ("agent did not reply within " ++ toString (r.timeoutMs / 1000) ++ "s")
  | .drop => NodeOutcome.failed (some node) .transport "agent dropped the command without replying"

/-- Sends a command to a node: `none` when the node has no open route here. -/
def dispatch (r : Router) (node : Int) (cmd : AgentCommand) : Option NodeOutcome × Router :=
  match r.routes.find? (·.node == node) with
  | none => (none, r)
  | some route =>
    if route.closed then (none, r.detach node)
    else
      let outcome := r.answerOf route node
      let routes := r.routes.map fun x => if x.node == node then { x with served := x.served + 1 } else x
      (some outcome, { r with routes, received := r.received ++ [(node, cmd)] })

/-- Sends commands one after another; gives the outcomes of routed nodes in order and the nodes
not routed here. -/
def dispatchAll (r : Router) : List (Int × AgentCommand) → List NodeOutcome × List Int × Router
  | [] => ([], [], r)
  | (node, cmd) :: rest =>
    let (o, r) := r.dispatch node cmd
    let (os, unrouted, r) := dispatchAll r rest
    match o with
    | some o => (o :: os, unrouted, r)
    | none => (os, node :: unrouted, r)

end Router

end LoadDispatch
