/-!
A worker node belongs to one tenant or, without one, to the shared pool; it reports to a controller,
can be disabled, and is live while its heartbeats are recent.
-/

namespace LoadDispatch

/-- How candidate nodes are ordered before the first ones are picked. -/
inductive SelectionStrategy where
  | roundRobin
  | idlePreferred
  | random
  deriving DecidableEq, Repr, Inhabited

namespace SelectionStrategy

def text : SelectionStrategy → String
  | .roundRobin => "round_robin"
  | .idlePreferred => "idle_preferred"
  | .random => "random"

def all : List SelectionStrategy := [.roundRobin, .idlePreferred, .random]

end SelectionStrategy

/-- The nodes a selection draws from: a tenant's own, or the shared ones. -/
inductive NodePool where
  | tenant (id : Int)
  | shared
  deriving DecidableEq, Repr, Inhabited

structure NodeRegistration where
  id : Int
  tenantId : Option Int := none
  name : String
  controllerIp : String
  deriving DecidableEq, Repr, Inhabited

/-- A registered node. -/
structure Node where
  id : Int
  tenantId : Option Int
  name : String
  controllerIp : String
  enabled : Bool
  lastHeartbeatMs : Int
  deriving DecidableEq, Repr, Inhabited

structure NodeInfo where
  id : Int
  tenantId : Option Int
  name : String
  controllerIp : String
  enabled : Bool
  lastHeartbeatMs : Int
  activeExecutions : Nat
  deriving DecidableEq, Repr, Inhabited

namespace Node

def inPool (n : Node) : NodePool → Bool
  | .tenant t => n.tenantId == some t
  | .shared => n.tenantId.isNone

end Node

end LoadDispatch
