import LoadDispatch.Store.Tables

/-!
The node registry. Registering a known id replaces its tenant, name and controller and counts as a
heartbeat; listings are in id order with each node's linked executions, and a node is live when it
is enabled and was heard within the window.
-/

namespace LoadDispatch

namespace Database

def node? (db : Database) (id : Int) : Option Node := db.nodes.find? (·.id == id)

/-- Registers a node at the given time. -/
def register (db : Database) (reg : NodeRegistration) (now : Int) : Database :=
  let enabled := match db.node? reg.id with
    | some n => n.enabled
    | none => true
  let n : Node := ⟨reg.id, reg.tenantId, reg.name, reg.controllerIp, enabled, now⟩
  { db with nodes := upsert Node.id n db.nodes }

def modifyNode (db : Database) (id : Int) (f : Node → Node) : Database :=
  { db with nodes := db.nodes.map fun n => if n.id == id then f n else n }

def heartbeat (db : Database) (id : Int) (now : Int) : Bool × Database :=
  ((db.node? id).isSome, db.modifyNode id fun n => { n with lastHeartbeatMs := now })

def setEnabled (db : Database) (id : Int) (enabled : Bool) : Database :=
  db.modifyNode id fun n => { n with enabled := enabled }

def forgetHeartbeat (db : Database) (id : Int) : Database :=
  db.modifyNode id fun n => { n with lastHeartbeatMs := 0 }

def info (db : Database) (n : Node) : NodeInfo :=
  ⟨n.id, n.tenantId, n.name, n.controllerIp, n.enabled, n.lastHeartbeatMs, db.activeExecutions n.id⟩

def nodesById (db : Database) : List Node := sortBy (fun a b => decide (a.id ≤ b.id)) db.nodes

def listNodes (db : Database) : List NodeInfo := db.nodesById.map db.info

/-- The enabled nodes of a pool, in id order. -/
def candidates (db : Database) (pool : NodePool) : List NodeInfo :=
  (db.nodesById.filter fun n => n.enabled && n.inPool pool).map db.info

/-- The given ids, in order and with repeats, whose nodes are enabled and were heard from at or
after `now - windowMs`. -/
def liveIds (db : Database) (ids : List Int) (windowMs now : Int) : List Int :=
  let cutoff := wrapI64 (now - windowMs)
  ids.filter fun id => db.nodes.any fun n => n.id == id && n.enabled && n.lastHeartbeatMs ≥ cutoff

def addOwned (m : List (String × List Int)) (ip : String) (id : Int) : List (String × List Int) :=
  if m.any (·.1 == ip) then m.map fun e => if e.1 == ip then (e.1, e.2 ++ [id]) else e
  else m ++ [(ip, [id])]

/-- Which enabled nodes each controller address reaches, ids in order. -/
def ownership (db : Database) : List (String × List Int) :=
  (db.nodesById.filter (·.enabled)).foldl (fun m n => addOwned m n.controllerIp n.id) []

end Database

end LoadDispatch
