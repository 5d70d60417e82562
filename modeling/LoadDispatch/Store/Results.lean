import LoadDispatch.Store.Reread
import LoadDispatch.Store.Tables

/-!
A script, named by its type and source id, has at most one current result. Judging a run updates it,
counting one more run and one more failure when the verdict fails, or creates it with one run; case
verdicts are kept per result and case, the latest winning.
-/

namespace LoadDispatch

namespace Database

/-- The current result of a script: its row with the largest id. -/
def currentResult (db : Database) (scriptType : ScriptType) (sourceId : Int) : Option TestResult :=
  (db.results.filter fun r => r.scriptType == scriptType && r.scriptSourceId == sourceId).foldl
    (fun acc r => match acc with
      | some a => if r.id > a.id then some r else some a
      | none => some r) none

def result? (db : Database) (id : Int) : Option TestResult := db.results.find? (·.id == id)

def caseResultsOf (db : Database) (resultId : Int) : List TestCaseResult :=
  sortBy (fun a b => decide (a.caseId ≤ b.caseId)) (db.caseResults.filter (·.resultId == resultId))

end Database

/-- The result row a judged run leaves under an id, with the run and failure counts of its script:
the run's execution, verdict, indicator as judged, and samples. -/
def TestResult.ofRun (exec : Execution) (verdict : Verdict) (samples : RunSamples) (id : Int)
    (timesRun timesFailed : Nat) : TestResult :=
  { id, scriptType := exec.scriptType, scriptSourceId := exec.resultSourceId, executionId := exec.id,
    passed := verdict.passed, failureReason := verdict.reason,
    usageFailedNodeId := verdict.usageFailedNodeId, indicator := exec.indicator.map Indicator.reread,
    summary := samples.summary.map SampleSummary.reread,
    assertions := AssertionSummary.ofSamples samples.cases,
    usage := samples.usage.map UsageSummary.reread, timesRun, timesFailed }

namespace Database

/-- Records the verdict of an execution's run; gives the result as stored. -/
def recordResult (db : Database) (exec : Execution) (verdict : Verdict) (samples : RunSamples)
    (cases : List CaseVerdict) : TestResult × Database :=
  let sourceId := exec.resultSourceId
  let failedOnce := if verdict.passed then 0 else 1
  let r := match db.currentResult exec.scriptType sourceId with
    | some cur => TestResult.ofRun exec verdict samples cur.id (cur.timesRun + 1)
        (cur.timesFailed + failedOnce)
    | none => TestResult.ofRun exec verdict samples (nextRowId (db.results.map (·.id))) 1 failedOnce
  let sameScript (x : TestResult) := x.scriptType == exec.scriptType && x.scriptSourceId == sourceId
  let stale := (db.results.filter fun x => sameScript x && x.id != r.id).map (·.id)
  let results := (db.results.filter fun x => !(sameScript x && x.id != r.id))
  let caseRows := db.caseResults.filter fun c => !stale.contains c.resultId
  let caseRows := cases.foldl (fun rows c =>
    upsert (fun x : TestCaseResult => (x.resultId, x.caseId))
      ⟨r.id, c.caseId, exec.id, c.passed, c.reason⟩ rows) caseRows
  (r, { db with results := upsert TestResult.id r results, caseResults := caseRows })

end Database

end LoadDispatch
