import LoadDispatch.Proofs.Refusals
import LoadDispatch.Proofs.ResultHistory

/-!
What a completion records: the verdict of the run and of each case, judged with the failure message
on record once the report's own is merged in. Nothing clears a scheduling round's message, so the
message of a round that was turned away can become the reason of a later run reported without one.
-/
namespace LoadDispatch

namespace Database

def caseVerdict? (db : Database) (resultId caseId : Int) : Option (Option Bool × Option String) :=
  (db.caseResults.find? fun x => decide ((x.resultId, x.caseId) = (resultId, caseId))).map
    fun x => (x.passed, x.failureReason)

section Record

variable (db : Database) (exec : Execution) (verdict : Verdict) (samples : RunSamples)
  (cases : List CaseVerdict)

theorem recordResult_verdict :
    (db.recordResult exec verdict samples cases).1.passed = verdict.passed ∧
      (db.recordResult exec verdict samples cases).1.failureReason = verdict.reason := by
  unfold recordResult
  dsimp only
  cases db.currentResult exec.scriptType exec.resultSourceId <;> exact ⟨rfl, rfl⟩

theorem caseResults_recordResult : ∃ rows,
    (db.recordResult exec verdict samples cases).2.caseResults = cases.foldl (fun rows c =>
      upsert (fun x : TestCaseResult => (x.resultId, x.caseId))
        ⟨(db.recordResult exec verdict samples cases).1.id, c.caseId, exec.id, c.passed, c.reason⟩
        rows) rows := by
  unfold recordResult
  exact ⟨_, rfl⟩

theorem caseVerdict?_recordResult {caseId : Int} (hc : caseId ∈ cases.map (·.caseId)) :
    (db.recordResult exec verdict samples cases).2.caseVerdict?
        (db.recordResult exec verdict samples cases).1.id caseId =
      (cases.reverse.find? (·.caseId == caseId)).map fun c => (c.passed, c.reason) := by
  obtain ⟨rows, hrows⟩ := caseResults_recordResult db exec verdict samples cases
  obtain ⟨c, hc⟩ : ∃ c, cases.reverse.find? (·.caseId == caseId) = some c := by
    obtain ⟨c, hmem, hid⟩ := List.mem_map.mp hc
    exact Option.isSome_iff_exists.mp
      (List.find?_isSome.mpr ⟨c, List.mem_reverse.mpr hmem, by simp [hid]⟩)
  unfold caseVerdict?
  rw [hrows, find?_foldl_upsert (fun x : TestCaseResult => (x.resultId, x.caseId))]
  simp only [Prod.mk.injEq, true_and]
  have hlast : cases.reverse.find? (fun x => decide (x.caseId = caseId)) = some c := hc
  rw [hlast, hc]
  rfl

end Record

/-- A result and the stored case verdicts record a judgement: the result carries the run's verdict
and each case the verdict last judged for it. -/
def Records (db : Database) (r : TestResult) (cases : List ExecutionCase)
    (j : Verdict × List CaseVerdict) : Prop :=
  r.passed = j.1.passed ∧ r.failureReason = j.1.reason ∧
    ∀ c ∈ cases, db.caseVerdict? r.id c.caseId =
      (j.2.reverse.find? (·.caseId == c.caseId)).map fun v => (v.passed, v.reason)

theorem records_recordResult (db : Database) (exec : Execution) (verdict : Verdict)
    (samples : RunSamples) {cases : List ExecutionCase} {verdicts : List CaseVerdict}
    (hids : verdicts.map (·.caseId) = cases.map (·.caseId)) :
    (db.recordResult exec verdict samples verdicts).2.Records
      (db.recordResult exec verdict samples verdicts).1 cases (verdict, verdicts) := by
  obtain ⟨hpassed, hreason⟩ := recordResult_verdict db exec verdict samples verdicts
  refine ⟨hpassed, hreason, fun c hc => ?_⟩
  apply caseVerdict?_recordResult
  rw [hids]
  exact List.mem_map_of_mem hc

end Database

theorem Verdict.judgeCases_caseIds (status : ExecutionStatus) (message : Option String)
    (cases : List ExecutionCase) (samples : List CaseSample) :
    (Verdict.judgeCases status message cases samples).map (·.caseId) = cases.map (·.caseId) := by
  unfold Verdict.judgeCases
  rw [List.map_map]
  apply List.map_congr_left
  intro c _
  rfl

namespace Orchestrator

/-- What a completion judges: the run's verdict and each case's, from the execution, the report, and
the failure message on record once the report's own is merged in. -/
def completionJudgement (exec : Execution) (cases : List ExecutionCase) (report : CompletionReport) :
    Verdict × List CaseVerdict :=
  let message := report.failureMessage.or exec.failureMessage
  (Verdict.judge exec.scriptType report.status message exec.indicator
      ⟨report.summary, report.usage, report.cases⟩ exec.nodeIds,
    Verdict.judgeCases report.status message cases report.cases)

def finishedDb (s : Site) (id : Int) (exec : Execution) (report : CompletionReport) : Database :=
  ((s.db.saveSamples id ⟨report.summary, report.usage, report.cases⟩).finish id report.status
    report.failureMessage s.now).removeNodes id exec.nodeIds

def recordCompletion (s : Site) (id : Int) (exec e : Execution) (report : CompletionReport) :
    TestResult × Database :=
  let j := completionJudgement exec (s.db.casesOf id) report
  (finishedDb s id exec report).recordResult e j.1 ⟨report.summary, report.usage, report.cases⟩ j.2

/-- A completion of a live execution the caller may operate, with a terminal status, reloads the
execution finished with the report's status and merged message and records the judgement for it. -/
theorem run_complete (ctx : RequestContext) (id : Int) (report : CompletionReport)
    {s : Site} {exec : Execution} (hx : s.db.execution? id = some exec)
    (hmay : ctx.mayOperate exec.tenantId = true) (hterm : report.status.isTerminal = true) :
    ∃ e, (finishedDb s id exec report).execution? id = some e ∧
      e.toExecutionRow = { exec.toExecutionRow with
        status := report.status, endTime := some s.now,
        failureMessage := report.failureMessage.or exec.failureMessage } ∧
      (complete ctx id report).run.run s =
        (.ok (recordCompletion s id exec e report).1,
          { s with db := (recordCompletion s id exec e report).2 }) := by
  obtain ⟨e, he, hrow⟩ := Database.execution?_completed hx
    ⟨report.summary, report.usage, report.cases⟩ report.status report.failureMessage s.now exec.nodeIds
  have hfields : e.tenantId = exec.tenantId ∧ e.scriptType = exec.scriptType ∧
      e.status = report.status ∧ e.failureMessage = report.failureMessage.or exec.failureMessage ∧
      e.indicator = exec.indicator := by
    obtain ⟨row, nodes⟩ := e
    dsimp only at hrow
    subst hrow
    exact ⟨rfl, rfl, rfl, rfl, rfl⟩
  obtain ⟨hten, htype, hst, hmsg, hind⟩ := hfields
  refine ⟨e, he, hrow, ?_⟩
  unfold complete
  simp only [run_bind, run_load, hx, hmay, if_true, hterm, Bool.not_true, Bool.false_eq_true,
    if_false, run_get, run_modifyDb, he, hten, run_updateDb]
  unfold recordCompletion completionJudgement finishedDb
  rw [htype, hst, hmsg, hind]
  rfl

/-- A completion of a live execution the caller may operate, with a terminal status, succeeds and
records the completion's judgement of the run and of the execution's cases. -/
theorem complete_records_judgement (ctx : RequestContext) (id : Int) (report : CompletionReport)
    {s : Site} {exec : Execution} (hx : s.db.execution? id = some exec)
    (hmay : ctx.mayOperate exec.tenantId = true) (hterm : report.status.isTerminal = true) :
    ∃ r s', (complete ctx id report).run.run s = (.ok r, s') ∧
      s'.db.Records r (s.db.casesOf id) (completionJudgement exec (s.db.casesOf id) report) := by
  obtain ⟨e, -, -, hrun⟩ := run_complete ctx id report hx hmay hterm
  refine ⟨_, _, hrun, ?_⟩
  exact Database.records_recordResult _ _ _ _ (Verdict.judgeCases_caseIds _ _ _ _)

theorem completionJudgement_eq_of_message {e₁ e₂ : Execution} (cases : List ExecutionCase)
    (report : CompletionReport) (htype : e₁.scriptType = e₂.scriptType)
    (hind : e₁.indicator = e₂.indicator) (hnodes : e₁.nodeIds = e₂.nodeIds)
    (hmsg : report.failureMessage.isSome ∨ e₁.failureMessage = e₂.failureMessage) :
    completionJudgement e₁ cases report = completionJudgement e₂ cases report := by
  have hmerged : report.failureMessage.or e₁.failureMessage =
      report.failureMessage.or e₂.failureMessage := by
    rcases hmsg with hsome | hsame
    · obtain ⟨m, hm⟩ := Option.isSome_iff_exists.mp hsome
      rw [hm, Option.some_or, Option.some_or]
    · rw [hsame]
  unfold completionJudgement
  rw [htype, hind, hnodes, hmerged]

/-- Completions with one report of two executions alike in script type, indicator, cases and nodes
record the same verdicts, whatever rounds either went through before, when the report carries a
message or both hold the same one. -/
theorem completion_verdicts_agree_given_message (ctx : RequestContext) (report : CompletionReport)
    {s₁ s₂ : Site} {id₁ id₂ : Int} {e₁ e₂ : Execution}
    (h₁ : s₁.db.execution? id₁ = some e₁) (h₂ : s₂.db.execution? id₂ = some e₂)
    (hmay₁ : ctx.mayOperate e₁.tenantId = true) (hmay₂ : ctx.mayOperate e₂.tenantId = true)
    (hterm : report.status.isTerminal = true)
    (htype : e₁.scriptType = e₂.scriptType) (hind : e₁.indicator = e₂.indicator)
    (hnodes : e₁.nodeIds = e₂.nodeIds) (hcases : s₁.db.casesOf id₁ = s₂.db.casesOf id₂)
    (hmsg : report.failureMessage.isSome ∨ e₁.failureMessage = e₂.failureMessage) :
    ∃ r₁ r₂ s₁' s₂', (complete ctx id₁ report).run.run s₁ = (.ok r₁, s₁') ∧
      (complete ctx id₂ report).run.run s₂ = (.ok r₂, s₂') ∧
      r₁.passed = r₂.passed ∧ r₁.failureReason = r₂.failureReason ∧
      ∀ c ∈ s₁.db.casesOf id₁,
        s₁'.db.caseVerdict? r₁.id c.caseId = s₂'.db.caseVerdict? r₂.id c.caseId := by
  obtain ⟨r₁, s₁', hrun₁, hp₁, hr₁, hc₁⟩ := complete_records_judgement ctx id₁ report h₁ hmay₁ hterm
  obtain ⟨r₂, s₂', hrun₂, hp₂, hr₂, hc₂⟩ := complete_records_judgement ctx id₂ report h₂ hmay₂ hterm
  have hsame := completionJudgement_eq_of_message (s₂.db.casesOf id₂) report htype hind hnodes hmsg
  rw [hcases, hsame] at hp₁ hr₁ hc₁
  refine ⟨r₁, r₂, s₁', s₂', hrun₁, hrun₂, hp₁.trans hp₂.symm, hr₁.trans hr₂.symm, fun c hc => ?_⟩
  rw [hcases] at hc
  rw [hc₁ c hc, hc₂ c hc]

def busyInstance : Controller :=
  { config := {},
    router := { routes := [{ node := 1, answers := [.reply ⟨false, 1, "agent busy", [], 1⟩] }],
                timeoutMs := 0, tailChars := 0 } }

/-- Two executions of one script: the first start of the first is turned away by a busy agent on
node 1, then both start there. -/
def busyThenStarted : List Visit :=
  let visit (c : Controller) (r : Request) : Visit := ⟨r, c, 1750000000000, .unreachable⟩
  [visit acceptingInstance (.create tenantOneExecution),
   visit acceptingInstance (.create tenantOneExecution),
   visit busyInstance (.start .system { executionId := 1 }),
   visit acceptingInstance (.start .system { executionId := 1 }),
   visit acceptingInstance (.start .system { executionId := 2 })]

def busyThenStartedSite : Site :=
  ⟨serveAll { nodes := [nodeOne] } busyThenStarted, acceptingInstance, 1750000060000, .unreachable⟩

/-- Completed as failed with no message of their own, two executions alike in everything else are
judged apart: the first for the busy agent of a round long over, the second for its status. -/
theorem turnedAwayRound_reaches_verdict :
    (busyThenStartedSite.db.execution? 1).map
        (fun e => (e.scriptType, e.indicator, e.threads, e.status, e.nodeIds)) =
      (busyThenStartedSite.db.execution? 2).map
        (fun e => (e.scriptType, e.indicator, e.threads, e.status, e.nodeIds)) ∧
    busyThenStartedSite.db.casesOf 1 = busyThenStartedSite.db.casesOf 2 ∧
    ((complete .system 1 { status := .failed }).run.run busyThenStartedSite).1.toOption.map
        (fun r => (r.passed, r.failureReason)) = some (false, some "agent busy") ∧
    ((complete .system 2 { status := .failed }).run.run busyThenStartedSite).1.toOption.map
        (fun r => (r.passed, r.failureReason)) =
      some (false, some "execution ended with status FAILED") := by
  decide +kernel

def crashReport : CompletionReport := { status := .failed, failureMessage := some "runner crashed" }

theorem crashReports_judged_alike :
    ∃ r₁ r₂ s₁ s₂, (complete .system 1 crashReport).run.run busyThenStartedSite = (.ok r₁, s₁) ∧
      (complete .system 2 crashReport).run.run busyThenStartedSite = (.ok r₂, s₂) ∧
      r₁.passed = r₂.passed ∧ r₁.failureReason = r₂.failureReason ∧
      ∀ c ∈ busyThenStartedSite.db.casesOf 1,
        s₁.db.caseVerdict? r₁.id c.caseId = s₂.db.caseVerdict? r₂.id c.caseId := by
  have halike : ((busyThenStartedSite.db.execution? 1).bind fun e₁ =>
      (busyThenStartedSite.db.execution? 2).map fun e₂ => decide (e₁.scriptType = e₂.scriptType ∧
        e₁.indicator = e₂.indicator ∧ e₁.nodeIds = e₂.nodeIds)) = some true ∧
      busyThenStartedSite.db.casesOf 1 = busyThenStartedSite.db.casesOf 2 := by
    decide +kernel
  rcases h₁ : busyThenStartedSite.db.execution? 1 with _ | e₁ <;>
    rcases h₂ : busyThenStartedSite.db.execution? 2 with _ | e₂ <;>
    simp only [h₁, h₂, Option.bind_none, Option.bind_some, Option.map_none, Option.map_some,
      reduceCtorEq, Option.some.injEq, decide_eq_true_eq, false_and] at halike
  obtain ⟨⟨htype, hind, hnodes⟩, hcases⟩ := halike
  exact completion_verdicts_agree_given_message .system crashReport h₁ h₂ rfl rfl rfl htype hind
    hnodes hcases (.inl rfl)

end Orchestrator

end LoadDispatch
