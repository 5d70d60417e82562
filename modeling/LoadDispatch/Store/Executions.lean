import LoadDispatch.Store.Reread
import LoadDispatch.Store.Tables
import LoadDispatch.Run.Script

/-!
The execution store. Reads hide executions marked deleted, except the bare status lookup, and
updates reach every row with the id; a new execution starts `PENDING`, with its threads written into
the script when it can be rewritten.
-/

namespace LoadDispatch

def duplicateCaseMessage : String :=
  "UNIQUE constraint failed: execution_cases.execution_id, execution_cases.case_id"

namespace Database

def hasRepeat : List Int → Bool
  | [] => false
  | x :: rest => rest.contains x || hasRepeat rest

/-- Inserts a new execution; gives its id. -/
def create (db : Database) (new : NewExecution) : Except String (Int × Database) :=
  if hasRepeat (new.cases.map (·.caseId)) then .error duplicateCaseMessage
  else
    let id := nextRowId (db.executions.map (·.id))
    let script := match applyThreads new.script new.threads with
      | .ok s => s
      | .error _ => new.script
    let row : ExecutionRow :=
      { id, tenantId := new.tenantId, scriptType := new.scriptType,
        scriptSourceId := new.scriptSourceId, status := .pending, threads := new.threads,
        originalThreads := some new.threads, trial := new.trial, debug := new.debug,
        nodeCount := new.nodeCount, nodePool := new.nodePool, strategy := new.strategy,
        script, indicator := new.indicator.map Indicator.reread }
    .ok (id, { db with executions := db.executions ++ [row],
                       cases := db.cases ++ new.cases.map (id, ·) })

def row? (db : Database) (id : Int) : Option ExecutionRow := db.executions.find? (·.id == id)

/-- A live execution with its nodes. -/
def execution? (db : Database) (id : Int) : Option Execution :=
  match db.row? id with
  | some r => if r.deletedAt.isNone then some { r with nodeIds := db.nodeIds id } else none
  | none => none

def status? (db : Database) (id : Int) : Option ExecutionStatus := (db.row? id).map (·.status)

/-- Changes every row with an id. -/
def modifyRow (db : Database) (id : Int) (f : ExecutionRow → ExecutionRow) : Database :=
  { db with executions := db.executions.map fun r => if r.id == id then f r else r }

def updateThreads (db : Database) (id : Int) (t : ThreadConfig) : Except String Database :=
  match db.row? id with
  | none => .error ("execution " ++ toString id ++ " not found")
  | some r => match applyThreads r.script t with
    | .error e => .error e.message
    | .ok script => .ok (db.modifyRow id fun r =>
        { r with threads := t, originalThreads := some t, script })

def setStatus (db : Database) (id : Int) (s : ExecutionStatus) : Database :=
  db.modifyRow id fun r => { r with status := s }

/-- Records one scheduling attempt: status, outcomes, one more attempt, the time, the failure
message when one is given, and the start time on the first `RUNNING`. -/
def recordSchedule (db : Database) (id : Int) (s : ExecutionStatus) (outcomes : List NodeOutcome)
    (message : Option String) (now : Int) : Database :=
  db.modifyRow id fun r =>
    { r with status := s, scheduleResult := outcomes, scheduleCount := r.scheduleCount + 1,
             scheduleTime := some now, failureMessage := message.or r.failureMessage,
             startTime := if s == .running && r.startTime.isNone then some now else r.startTime }

/-- Live `RUNNING` executions of a tenant other than `exclude`. -/
def countRunning (db : Database) (tenant exclude : Int) : Nat :=
  (db.executions.filter fun r =>
    r.tenantId == tenant && r.status == .running && r.id != exclude && r.deletedAt.isNone).length

def clearRunState (db : Database) (id : Int) : Database :=
  { db with links := db.links.filter (·.1 != id), summaries := db.summaries.filter (·.1 != id),
            usage := db.usage.filter (·.1 != id), caseSamples := db.caseSamples.filter (·.1 != id) }

def addNodes (db : Database) (id : Int) (nodes : List Int) : Database :=
  { db with links := nodes.foldl (fun ls n => if ls.contains (id, n) then ls else ls ++ [(id, n)]) db.links }

def removeNodes (db : Database) (id : Int) (nodes : List Int) : Database :=
  { db with links := db.links.filter fun l => !(l.1 == id && nodes.contains l.2) }

/-- Settles a stop round: `STOPPED` with an end time when every node stopped, else `RUNNING`;
executions already finished keep their status. Gives the status afterwards. -/
def settleStop (db : Database) (id : Int) (allStopped : Bool) (now : Int) :
    Option ExecutionStatus × Database :=
  let db := db.modifyRow id fun r =>
    if r.status.isTerminal then r
    else if allStopped then { r with status := .stopped, endTime := some now }
    else { r with status := .running }
  (db.status? id, db)

def finish (db : Database) (id : Int) (s : ExecutionStatus) (message : Option String) (now : Int) :
    Database :=
  db.modifyRow id fun r =>
    { r with status := s, endTime := some now, failureMessage := message.or r.failureMessage }

/-- Hides an execution and unlinks its nodes. -/
def softDelete (db : Database) (id : Int) (now : Int) : Database :=
  let db := db.modifyRow id fun r => if r.deletedAt.isNone then { r with deletedAt := some now } else r
  { db with links := db.links.filter (·.1 != id) }

/-- Live `PENDING` executions tried fewer than `maxAttempts` times, in id order. -/
def pendingForRetry (db : Database) (maxAttempts : Nat) : List Int :=
  sortIds ((db.executions.filter fun r =>
    r.status == .pending && r.deletedAt.isNone && r.scheduleCount < maxAttempts).map (·.id))

def casesOf (db : Database) (id : Int) : List ExecutionCase :=
  sortBy (fun a b => decide (a.caseId ≤ b.caseId)) ((db.cases.filter (·.1 == id)).map (·.2))

/-- Replaces the samples of an execution. Usage is kept per node, the last row of a node
winning. -/
def saveSamples (db : Database) (id : Int) (s : RunSamples) : Database :=
  let db := { db with summaries := db.summaries.filter (·.1 != id), usage := db.usage.filter (·.1 != id),
                      caseSamples := db.caseSamples.filter (·.1 != id) }
  { db with
    summaries := db.summaries ++ (s.summary.map fun x => [(id, x.reread)]).getD []
    usage := s.usage.foldl (fun us u =>
      (us.filter fun e => !(e.1 == id && e.2.nodeId == u.nodeId)) ++ [(id, u.reread)]) db.usage
    caseSamples := db.caseSamples ++ s.cases.map (id, ·) }

def loadSamples (db : Database) (id : Int) : RunSamples :=
  { summary := (db.summaries.find? (·.1 == id)).map (·.2)
    usage := sortBy (fun a b => decide (a.nodeId ≤ b.nodeId)) ((db.usage.filter (·.1 == id)).map (·.2))
    cases := (db.caseSamples.filter (·.1 == id)).map (·.2) }

def statusCounts (db : Database) : List (ExecutionStatus × Nat) :=
  let live := db.executions.filter (·.deletedAt.isNone)
  (ExecutionStatus.all.map fun s => (s, (live.filter (·.status == s)).length)).filter (·.2 > 0)

end Database

end LoadDispatch
