import LoadDispatch.Settings.Config
import LoadDispatch.Run.Outcome

/-!
Nodes not routed at the instance that runs a start or stop are offered to sibling instances, one hop
only. Each sibling in turn is sent the nodes still unclaimed and keeps the outcomes it gives for
them, except those saying it has no route either; nodes nobody claims have no router.
-/

namespace LoadDispatch

/-- Takes one answer of a sibling into the outcomes claimed so far and the nodes still
unclaimed: kept when it names an unclaimed node and does not say the sibling has no route. -/
def claimAnswer (acc : List NodeOutcome × List Int) (o : NodeOutcome) :
    List NodeOutcome × List Int :=
  match o.nodeId with
  | some n =>
    if o.kind != .routerNotFound && acc.2.contains n then (acc.1 ++ [o], acc.2.filter (· != n))
    else acc
  | none => acc

def claimFrom (post : PeerInstance → List Int → Option (List NodeOutcome)) :
    List PeerInstance → List Int → List NodeOutcome × List Int
  | [], remaining => ([], remaining)
  | peer :: rest, remaining =>
    if remaining.isEmpty then ([], remaining)
    else
      let (claimed, remaining) := match post peer remaining with
        | none => ([], remaining)
        | some answers => answers.foldl claimAnswer ([], remaining)
      let (more, left) := claimFrom post rest remaining
      (claimed ++ more, left)

/-- The outcomes of relaying nodes to the peers of an instance. -/
def relay (post : PeerInstance → List Int → Option (List NodeOutcome)) (peers : List PeerInstance)
    (ownership : List (String × List Int)) (selfPrefix : String) (nodes : List Int) :
    List NodeOutcome :=
  let batch (message : String) := nodes.map fun n => NodeOutcome.failed (some n) .routerNotFound message
  if nodes.isEmpty then []
  else if peers.isEmpty then batch "no controller instance discovered"
  else
    let siblings := peers.filter fun p =>
      hostPrefix p.instanceId != selfPrefix && ownership.any (·.1 == p.host)
    if siblings.isEmpty then batch "no matching controller instance"
    else
      let (claimed, left) := claimFrom post siblings nodes
      claimed ++ left.map NodeOutcome.routerNotFound

end LoadDispatch
