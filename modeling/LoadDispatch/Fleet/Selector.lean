import LoadDispatch.Fleet.Registry
import LoadDispatch.Scheduling.Failure

/-!
A selection takes the enabled nodes of a pool, keeps those allowed and not excluded, orders them by
the strategy and picks the first `max count 1`. With liveness required, the first picked node that
is not live fails the whole selection.
-/

namespace LoadDispatch

/-- The parameters of one selection. -/
structure SelectionRequest where
  count : Nat
  pool : NodePool
  available : Option (List Int) := none
  exclude : List Int := []
  strategy : SelectionStrategy
  requireLive : Bool

def NodePool.emptyReason : NodePool → String
  | .shared => "no shared nodes available"
  | .tenant t => "no enabled nodes for tenant " ++ toString t

/-- An order the random strategy may put candidates in: any permutation of them. -/
structure Shuffle where
  order : List NodeInfo → List NodeInfo
  perm : ∀ cs, (order cs).Perm cs

def Shuffle.keep : Shuffle := ⟨id, List.Perm.refl⟩

/-- Candidates in the order of a strategy: rotated by the cursor, by load then id, or shuffled. -/
def orderCandidates (shuffle : Shuffle) (cs : List NodeInfo) (strategy : SelectionStrategy)
    (cursor : Nat) : List NodeInfo :=
  match strategy with
  | .roundRobin => cs.rotateLeft (cursor % cs.length)
  | .idlePreferred =>
    sortBy (fun a b => decide (a.activeExecutions < b.activeExecutions ∨
      (a.activeExecutions = b.activeExecutions ∧ a.id ≤ b.id))) cs
  | .random => shuffle.order cs

/-- Selects nodes with a cursor; gives the picked nodes and the cursor afterwards. -/
def select (shuffle : Shuffle) (db : Database) (now windowMs : Int) (cursor : Nat)
    (req : SelectionRequest) :
    Except SelectionError (List NodeInfo) × Nat :=
  let cs := (db.candidates req.pool).filter fun n =>
    (match req.available with
      | some allowed => allowed.contains n.id
      | none => true) && !req.exclude.contains n.id
  if cs.isEmpty then (.error (.noNodes req.pool.emptyReason), cursor)
  else
    let k := max req.count 1
    let (at_, cursor') := match req.strategy with
      | .roundRobin => (cursor, (cursor + k) % Nat.pow 2 64)
      | _ => (0, cursor)
    let picked := (orderCandidates shuffle cs req.strategy at_).take k
    if req.requireLive then
      let live := db.liveIds (picked.map (·.id)) windowMs now
      match picked.find? fun n => !live.contains n.id with
      | some dead => (.error (.nodeNotLive dead.id), cursor')
      | none => (.ok picked, cursor')
    else (.ok picked, cursor')

end LoadDispatch
