import LoadDispatch.Console.Basic
import LoadDispatch.Api.Routes
import LoadDispatch.Cluster.Sweep

/-!
A scenario runs against one fresh database shared by every instance. Instance 0 is the primary, with
the scenario's settings; siblings are further instances with their own ids, routes and cursors. No
relayed call gets through in this world, and the clock stands still for the length of a scenario.
-/

namespace LoadDispatch

namespace Console

def scenarioClock : Int := 1750000000000

/-- Every instance of a scenario and the shared database. -/
structure World where
  db : Database := {}
  controllers : List Controller
  /-- The cursor of the standalone selector that `select` steps share, whatever their instance. -/
  probe : Nat := 0
  now : Int

namespace World

def site? (w : World) (k : Nat) : Option Site :=
  (w.controllers[k]?).map fun ctl => ⟨w.db, ctl, w.now, Siblings.unreachable⟩

/-- Runs an operation of instance `k`; `none` when there is no such instance. -/
def runOn {α : Type} (w : World) (k : Nat) (m : SiteM α) : Option (α × World) :=
  (w.site? k).map fun s =>
    let (a, s') := Id.run (m.run s)
    (a, { w with db := s'.db, controllers := w.controllers.set k s'.ctl })

end World

def siblingDefaultId (k : Nat) : String := "127.0.1." ++ toString k ++ ":8080"

def siblingId (k : Nat) (j : Json) : String :=
  lenient j "instance_id" Decoder.string (siblingDefaultId k)

def siblingsSpec : Decoder (List String)
  | .arr items => .ok (items.zipIdx.map fun (item, k) => siblingId (k + 1) item)
  | _ => .error .here

/-- A peer: a sibling by index, reached on the loopback host, or a loopback host on which
nobody listens. -/
def peerSpec (siblings : List String) : Decoder PeerInstance := fun j => do
  let _ ← Decoder.object j
  let id ← Decoder.field j "instance_id" Decoder.string
  match (j.get? "sibling").bind fun v => (Decoder.u64 v).toOption with
  | some k => if k < siblings.length then return ⟨id, "127.0.0.1", 0⟩ else throw .here
  | none =>
    let host ← Decoder.field j "host" Decoder.string
    if host.startsWith "127." then return ⟨id, host, 0⟩ else throw .here

def controllerOf (config : ControllerConfig) (timeoutMs : Nat) : Controller :=
  { config, router := { timeoutMs, tailChars := config.dispatch.consoleTailChars } }

/-- The world a scenario describes. -/
def worldOf (req : Json) : Reply World := do
  let config ← withDefault req "config" (ControllerConfig.decode .json) {}
  let timeoutMs := min (lenient req "agent_timeout_ms" Decoder.u64 2000) 2000
  let siblings ← withDefault req "siblings" siblingsSpec []
  let peers ← withDefault req "peers" (Decoder.list (peerSpec siblings)) []
  let primary := { config with cluster := { config.cluster with peers } }
  let others := siblings.map fun id =>
    { config with controller := { config.controller with instanceId := id },
                  cluster := { config.cluster with peers := [] } }
  let controllers := (primary :: others).map (controllerOf · timeoutMs)
  return { controllers, now := scenarioClock }

end Console

end LoadDispatch
