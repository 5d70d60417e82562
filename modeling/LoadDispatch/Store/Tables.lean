import LoadDispatch.Fleet.Node
import LoadDispatch.Run.Threads
import LoadDispatch.Run.Outcome
import LoadDispatch.Run.Status
import LoadDispatch.Verdict.Judge

/-!
The database every controller instance shares. Row ids are one past the largest in use, so they are
handed out in creation order; executions are only hidden by a deletion mark; JSON columns hold the
values a later read yields.
-/

namespace LoadDispatch

/-- Replaces the first row with `x`'s key by `x`, or appends `x`. -/
def upsert {α κ : Type} [DecidableEq κ] (key : α → κ) (x : α) : List α → List α
  | [] => [x]
  | y :: ys => if key y = key x then x :: ys else y :: upsert key x ys

def insertOrdered {α : Type} (le : α → α → Bool) (a : α) : List α → List α
  | [] => [a]
  | b :: l => if le a b then a :: b :: l else b :: insertOrdered le a l

/-- Sorts by `le`, items that tie keeping their order. -/
def sortBy {α : Type} (le : α → α → Bool) (l : List α) : List α := l.foldr (insertOrdered le) []

/-- The id of the next inserted row: one past the largest id in use, starting at one. -/
def nextRowId (ids : List Int) : Int := ids.foldl max 0 + 1

/-- An integer as a signed 64-bit machine integer: the value modulo `2 ^ 64`, centred on zero. -/
def wrapI64 (i : Int) : Int :=
  let m := i % Int.pow 2 64
  if m ≥ Int.pow 2 63 then m - Int.pow 2 64 else m

/-- A stored execution. -/
structure ExecutionRow where
  id : Int
  tenantId : Int
  scriptType : ScriptType
  scriptSourceId : Option Int
  status : ExecutionStatus
  threads : ThreadConfig
  originalThreads : Option ThreadConfig
  trial : Bool
  debug : Bool
  nodeCount : Nat
  nodePool : Option (List Int)
  strategy : Option SelectionStrategy
  scheduleCount : Nat := 0
  scheduleResult : List NodeOutcome := []
  scheduleTime : Option Int := none
  startTime : Option Int := none
  endTime : Option Int := none
  script : String
  indicator : Option Indicator
  failureMessage : Option String := none
  deletedAt : Option Int := none

/-- An execution as loaded: its row and the nodes it currently runs on, in id order. -/
structure Execution extends ExecutionRow where
  nodeIds : List Int

namespace Execution

def shardBase (e : Execution) : ThreadConfig := e.originalThreads.getD e.threads

/-- The source id test results are grouped by: the script's, else the execution's own id. -/
def resultSourceId (e : Execution) : Int := e.scriptSourceId.getD e.id

end Execution

structure NewExecution where
  tenantId : Int
  scriptType : ScriptType
  scriptSourceId : Option Int := none
  threads : ThreadConfig
  trial : Bool := false
  debug : Bool := false
  nodeCount : Nat := 1
  nodePool : Option (List Int) := none
  strategy : Option SelectionStrategy := none
  script : String
  indicator : Option Indicator := none
  cases : List ExecutionCase := []

structure LockRow where
  key : String
  token : String
  expiresAtMs : Int

structure TestResult where
  id : Int
  scriptType : ScriptType
  scriptSourceId : Int
  executionId : Int
  passed : Bool
  failureReason : Option String
  usageFailedNodeId : Option Int
  indicator : Option Indicator
  summary : Option SampleSummary
  assertions : AssertionSummary
  usage : List UsageSummary
  timesRun : Nat
  timesFailed : Nat

structure TestCaseResult where
  resultId : Int
  caseId : Int
  executionId : Int
  passed : Option Bool
  failureReason : Option String

/-- All tables. -/
structure Database where
  nodes : List Node := []
  executions : List ExecutionRow := []
  /-- Which nodes run which executions: pairs of execution and node, each at most once. -/
  links : List (Int × Int) := []
  summaries : List (Int × SampleSummary) := []
  /-- Usage rows keyed by execution and node. -/
  usage : List (Int × UsageSummary) := []
  /-- Case samples in insertion order. -/
  caseSamples : List (Int × CaseSample) := []
  cases : List (Int × ExecutionCase) := []
  locks : List LockRow := []
  results : List TestResult := []
  caseResults : List TestCaseResult := []

namespace Database

def sortIds (ids : List Int) : List Int := sortBy (fun a b => decide (a ≤ b)) ids

def nodeIds (db : Database) (execution : Int) : List Int :=
  sortIds ((db.links.filter (·.1 == execution)).map (·.2))

def activeExecutions (db : Database) (node : Int) : Nat :=
  (db.links.filter (·.2 == node)).length

end Database

end LoadDispatch
