import LoadDispatch.Cluster.Requests
import LoadDispatch.Agent.Router
import LoadDispatch.Settings.Config
import LoadDispatch.Store.Executions
import LoadDispatch.Store.Lock
import LoadDispatch.Store.Results
import LoadDispatch.Fleet.Selector

/-!
An instance has its settings, its routes to agents and the cursor and shuffle of its node selector.
Its operations see the shared database, the instance, the clock and how its siblings are reached.
-/

namespace LoadDispatch

/-- One controller instance. -/
structure Controller where
  config : ControllerConfig
  router : Router
  cursor : Nat := 0
  shuffle : Shuffle := .keep

/-- How sibling instances are reached: their outcomes for a relayed request, or `none` when the
call fails in transport or is refused. -/
structure Siblings where
  start : PeerInstance → StartRequest → Option (List NodeOutcome)
  stop : PeerInstance → StopRequest → Option (List NodeOutcome)

def Siblings.unreachable : Siblings := ⟨fun _ _ => none, fun _ _ => none⟩

/-- What an operation of an instance works on. -/
structure Site where
  db : Database
  ctl : Controller
  now : Int
  siblings : Siblings

abbrev SiteM := StateM Site

namespace Site

def modifyDb (f : Database → Database) : SiteM Unit :=
  modify fun s => { s with db := f s.db }

def updateDb {α : Type} (f : Database → α × Database) : SiteM α := do
  let s ← get
  let (a, db) := f s.db
  set { s with db }
  return a

def updateRouter {α : Type} (f : Router → α × Router) : SiteM α := do
  let s ← get
  let (a, router) := f s.ctl.router
  set { s with ctl := { s.ctl with router } }
  return a

end Site

end LoadDispatch
