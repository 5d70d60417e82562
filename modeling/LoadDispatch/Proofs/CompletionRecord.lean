import LoadDispatch.Proofs.Completion
import LoadDispatch.Proofs.SampleStore

/-!
Everything a completion records: the row finished with the report's status and message, the nodes
unlinked, the samples saved, and the judgement stored as the script's result. Samples come back as
reported only where their numbers read back from their JSON form.
-/
namespace LoadDispatch

/-- Whether the numbers of a report's summary and usage rows read back from their JSON form. -/
def CompletionReport.numbersReadBack (report : CompletionReport) : Bool :=
  report.summary.all (fun x => Json.numbersReadBack x.toJson) &&
    report.usage.all fun u => Json.numbersReadBack u.toJson

namespace Database

def caseResult? (db : Database) (resultId caseId : Int) : Option TestCaseResult :=
  db.caseResults.find? fun x => decide ((x.resultId, x.caseId) = (resultId, caseId))

section Record

variable (db : Database) (exec : Execution) (verdict : Verdict) (samples : RunSamples)
  (cases : List CaseVerdict)

@[simp] theorem row?_recordResult (id : Int) :
    (db.recordResult exec verdict samples cases).2.row? id = db.row? id := rfl

@[simp] theorem links_recordResult :
    (db.recordResult exec verdict samples cases).2.links = db.links := rfl

@[simp] theorem loadSamples_recordResult (id : Int) :
    (db.recordResult exec verdict samples cases).2.loadSamples id = db.loadSamples id := rfl

theorem recordResult_fst : ∃ rid timesRun timesFailed,
    (db.recordResult exec verdict samples cases).1 =
      TestResult.ofRun exec verdict samples rid timesRun timesFailed := by
  unfold recordResult
  dsimp only
  cases db.currentResult exec.scriptType exec.resultSourceId <;> exact ⟨_, _, _, rfl⟩

theorem find?_reverse_of_nodup {v : CaseVerdict} (hnodup : (cases.map (·.caseId)).Nodup)
    (hv : v ∈ cases) : cases.reverse.find? (fun c => decide (c.caseId = v.caseId)) = some v := by
  obtain ⟨w, hw⟩ : ∃ w, cases.reverse.find? (fun c => decide (c.caseId = v.caseId)) = some w :=
    Option.isSome_iff_exists.mp (List.find?_isSome.mpr ⟨v, List.mem_reverse.mpr hv, by simp⟩)
  have hwmem : w ∈ cases := List.mem_reverse.mp (List.mem_of_find?_eq_some hw)
  have hwid : w.caseId = v.caseId := by simpa using List.find?_some hw
  rw [hw, List.inj_on_of_nodup_map hnodup hwmem hv hwid]

theorem caseResult?_recordResult (hnodup : (cases.map (·.caseId)).Nodup) {v : CaseVerdict}
    (hv : v ∈ cases) :
    (db.recordResult exec verdict samples cases).2.caseResult?
        (db.recordResult exec verdict samples cases).1.id v.caseId =
      some ⟨(db.recordResult exec verdict samples cases).1.id, v.caseId, exec.id, v.passed, v.reason⟩ := by
  obtain ⟨rows, hrows⟩ := caseResults_recordResult db exec verdict samples cases
  unfold caseResult?
  rw [hrows, find?_foldl_upsert (fun x : TestCaseResult => (x.resultId, x.caseId))]
  simp only [Prod.mk.injEq, true_and]
  rw [find?_reverse_of_nodup cases hnodup hv]
  rfl

end Record

end Database

namespace Orchestrator

theorem loadSamples_finishedDb (s : Site) (id : Int) (exec : Execution) (report : CompletionReport) :
    (finishedDb s id exec report).loadSamples id =
      (s.db.saveSamples id ⟨report.summary, report.usage, report.cases⟩).loadSamples id := rfl

/-- What a completion of the execution `exec`, loaded from the site `s`, with `report` leaves: the
result `r` and the database `db'`. -/
structure CompletionRecorded (s : Site) (id : Int) (exec : Execution) (report : CompletionReport)
    (r : TestResult) (db' : Database) : Prop where
  finished : ∃ row, db'.row? id = some row ∧ row.status = report.status ∧
    row.endTime = some s.now ∧ row.failureMessage = report.failureMessage.or exec.failureMessage
  unlinked : ∀ n ∈ exec.nodeIds, (id, n) ∉ db'.links
  summary : (db'.loadSamples id).summary = report.summary.map SampleSummary.reread
  cases : (db'.loadSamples id).cases = report.cases
  readBack : report.numbersReadBack = true →
    (db'.loadSamples id).summary = report.summary ∧
      UsageSummary.LastPerNode report.usage (db'.loadSamples id).usage
  verdict : r.passed = (completionJudgement exec (s.db.casesOf id) report).1.passed ∧
    r.failureReason = (completionJudgement exec (s.db.casesOf id) report).1.reason ∧
    r.usageFailedNodeId = (completionJudgement exec (s.db.casesOf id) report).1.usageFailedNodeId
  caseRows : ∀ v ∈ (completionJudgement exec (s.db.casesOf id) report).2,
    db'.caseResult? r.id v.caseId = some ⟨r.id, v.caseId, id, v.passed, v.reason⟩
  assertions : r.assertions = AssertionSummary.ofSamples report.cases

/-- The saved samples of a report whose numbers read back are loaded as reported, the usage as the
last row of each node in node order. -/
theorem loadSamples_of_numbersReadBack {db : Database} {id : Int} {report : CompletionReport}
    (h : report.numbersReadBack = true) :
    ((db.saveSamples id ⟨report.summary, report.usage, report.cases⟩).loadSamples id).summary =
        report.summary ∧
      UsageSummary.LastPerNode report.usage
        ((db.saveSamples id ⟨report.summary, report.usage, report.cases⟩).loadSamples id).usage := by
  obtain ⟨hsummary, husage⟩ := Bool.and_eq_true_iff.mp h
  constructor
  · rw [Database.summary_loadSamples_saveSamples]
    cases hx : report.summary with
    | none => rfl
    | some x =>
      rw [hx] at hsummary
      rw [Option.map_some, SampleSummary.reread_eq_self hsummary]
  · apply Database.usage_loadSamples_saveSamples
    intro u hu
    exact UsageSummary.reread_eq_self (List.all_eq_true.mp husage u hu)

/-- A completion of a live execution the caller may operate, with a terminal status and distinct
case ids, finishes the row, unlinks the nodes, saves the samples and stores the judgement with a
verdict row per case. -/
theorem complete_records_run (ctx : RequestContext) (id : Int) (report : CompletionReport)
    {s : Site} {exec : Execution} (hx : s.db.execution? id = some exec)
    (hmay : ctx.mayOperate exec.tenantId = true) (hterm : report.status.isTerminal = true)
    (hcases : ((s.db.casesOf id).map (·.caseId)).Nodup) :
    ∃ r s', (complete ctx id report).run.run s = (.ok r, s') ∧
      CompletionRecorded s id exec report r s'.db := by
  obtain ⟨e, he, hrow, hrun⟩ := run_complete ctx id report hx hmay hterm
  refine ⟨_, _, hrun, ?_⟩
  have heid : e.id = id := (Database.execution?_some he).2.1
  obtain ⟨rid, timesRun, timesFailed, hr⟩ := Database.recordResult_fst (finishedDb s id exec report)
    e (completionJudgement exec (s.db.casesOf id) report).1
    ⟨report.summary, report.usage, report.cases⟩ (completionJudgement exec (s.db.casesOf id) report).2
  unfold recordCompletion
  dsimp only
  constructor
  · -- the row as reloaded, with the fields the finish wrote
    refine ⟨e.toExecutionRow, ?_, ?_, ?_, ?_⟩
    · rw [Database.row?_recordResult, Database.execution?_row he]
    all_goals rw [hrow]
  · intro n hn hlink
    rw [Database.links_recordResult, finishedDb, Database.mem_links_removeNodes] at hlink
    exact hlink.2 ⟨rfl, hn⟩
  · rw [Database.loadSamples_recordResult, loadSamples_finishedDb,
      Database.summary_loadSamples_saveSamples]
  · rw [Database.loadSamples_recordResult, loadSamples_finishedDb,
      Database.cases_loadSamples_saveSamples]
  · intro h
    rw [Database.loadSamples_recordResult, loadSamples_finishedDb]
    exact loadSamples_of_numbersReadBack h
  · rw [hr]
    exact ⟨rfl, rfl, rfl⟩
  · intro v hv
    have hnodup : ((completionJudgement exec (s.db.casesOf id) report).2.map (·.caseId)).Nodup := by
      unfold completionJudgement
      rw [Verdict.judgeCases_caseIds]
      exact hcases
    rw [Database.caseResult?_recordResult _ _ _ _ _ hnodup hv, heid]
  · rw [hr]
    rfl

def loginRow : ExecutionRow :=
  { id := 1, tenantId := 1, scriptType := .functional, scriptSourceId := none, status := .running,
    threads := { threadCount := 1, iterationCount := 1 }, originalThreads := none, trial := false,
    debug := false, nodeCount := 1, nodePool := none, strategy := none, script := "{}",
    indicator := none }

def loginSite : Site :=
  ⟨{ executions := [loginRow], links := [(1, 1)], cases := [(1, ⟨1, "login", true⟩)] },
    acceptingInstance, 1750000060000, .unreachable⟩

def loginReport : CompletionReport :=
  { status := .completed, summary := some { samples := 10, tps := Binary64.ofNat 150 },
    usage := [{ nodeId := 1, cpuMean := some (Binary64.ofNat 40) }],
    cases := [{ caseName := "login", success := some true }] }

theorem loginRun_recorded :
    loginSite.db.execution? 1 = some { loginRow with nodeIds := [1] } ∧
      loginReport.numbersReadBack = true ∧
      ∃ r s', (complete .system 1 loginReport).run.run loginSite = (.ok r, s') ∧
        CompletionRecorded loginSite 1 { loginRow with nodeIds := [1] } loginReport r s'.db := by
  have hx : loginSite.db.execution? 1 = some { loginRow with nodeIds := [1] } := by
    simp [loginSite, Database.execution?, Database.row?, Database.nodeIds, Database.sortIds,
      sortBy, insertOrdered, loginRow]
  exact ⟨hx, by decide +kernel, complete_records_run .system 1 loginReport hx rfl rfl
    (by simp [loginSite, Database.casesOf, sortBy, insertOrdered])⟩

def tinyTpsReport : CompletionReport :=
  { status := .completed, summary := some { samples := 10, tps := ⟨0x3b7bf4d742159e2f⟩ } }

/-- The throughput 3.7000000000000005e-22 is stored as its neighbour 3.700000000000001e-22, so the
summary loaded back is not the report's. -/
theorem tinyTps_drifts_when_stored :
    (((complete .system 1 tinyTpsReport).run.run loginSite).2.db.loadSamples 1).summary =
      some { samples := 10, tps := ⟨0x3b7bf4d742159e30⟩ } := by
  decide +kernel

end Orchestrator

end LoadDispatch
