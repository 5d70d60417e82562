import LoadDispatch.Proofs.Settled
import LoadDispatch.Proofs.Lock

/-!
Refused requests change nothing, and a start that took its execution's restart lock gives it back on
every path of its round, success or recorded failure.
-/
namespace LoadDispatch

namespace Database

/-- Recording a finished run keeps the execution live, with the run's status, its end time and the
run's failure message, the one on record standing in when the run gives none. -/
theorem execution?_completed {db : Database} {id : Int} {exec : Execution}
    (hx : db.execution? id = some exec) (samples : RunSamples) (st : ExecutionStatus)
    (msg : Option String) (now : Int) (nodes : List Int) :
    ∃ e, (((db.saveSamples id samples).finish id st msg now).removeNodes id nodes).execution? id = some e ∧
      e.toExecutionRow = { exec.toExecutionRow with
        status := st, endTime := some now, failureMessage := msg.or exec.failureMessage } := by
  have hrow : (((db.saveSamples id samples).finish id st msg now).removeNodes id nodes).row? id =
      some { exec.toExecutionRow with
        status := st, endTime := some now, failureMessage := msg.or exec.failureMessage } := by
    rw [row?_removeNodes, finish, row?_modifyRow]
    · have hsame : (db.saveSamples id samples).row? id = db.row? id := rfl
      rw [hsame, execution?_row hx]
      rfl
    · intro r
      rfl
  obtain ⟨-, -, hlive, -⟩ := execution?_some hx
  unfold execution?
  rw [hrow]
  simp only [hlive, Option.isNone_none, if_true]
  exact ⟨_, rfl, rfl⟩

theorem execution?_finish {db : Database} {id : Int} {exec : Execution} (hx : db.execution? id = some exec)
    (samples : RunSamples) (st : ExecutionStatus) (msg : Option String) (now : Int) (nodes : List Int) :
    ∃ e, (((db.saveSamples id samples).finish id st msg now).removeNodes id nodes).execution? id = some e ∧
      e.tenantId = exec.tenantId := by
  obtain ⟨e, he, hrow⟩ := execution?_completed hx samples st msg now nodes
  have hten := congrArg ExecutionRow.tenantId hrow
  exact ⟨e, he, hten⟩

theorem updateThreads_unrewritable {db : Database} {id : Int} {t : ThreadConfig} {r : ExecutionRow}
    {e : ScriptError} (hr : db.row? id = some r) (he : applyThreads r.script t = .error e) :
    db.updateThreads id t = .error e.message := by
  simp [updateThreads, hr, he]

end Database

namespace Orchestrator

def selectionKinds : List String := ["NoNodes", "NodeNotLive", "Storage", "BusinessRule"]

theorem ofSelection_kind (e : SelectionError) :
    (SchedulingFailure.ofSelection e).kindName ∈ selectionKinds := by
  cases e <;> simp [selectionKinds, SchedulingFailure.ofSelection, SchedulingFailure.kindName]

theorem businessRule_kind (text : String) :
    (SchedulingFailure.businessRule text).kindName ∈ selectionKinds := by
  simp [selectionKinds, SchedulingFailure.kindName]

theorem selectWith_failure (req : SelectionRequest) (s : Site) {f : SchedulingFailure} :
    ((selectWith req).run.run s).1 = .error f → f.kindName ∈ selectionKinds := by
  unfold selectWith
  simp only [run_bind, run_get, run_set]
  rcases select s.ctl.shuffle s.db s.now
      (wrapI64 (s.ctl.config.dispatch.nodeLivenessSecs * 1000)) s.ctl.cursor req with
    ⟨_ | picked, cursor⟩
  · intro h
    cases h
    exact ofSelection_kind _
  · intro h
    cases h

theorem selectTrialNodes_failure (exec : Execution) (s : Site) {f : SchedulingFailure} :
    ((selectTrialNodes exec).run.run s).1 = .error f → f.kindName ∈ selectionKinds := by
  unfold selectTrialNodes
  simp only [run_bind, run_get]
  split
  · split
    · intro h
      cases h
      exact businessRule_kind _
    · exact selectWith_failure _ s
  · exact selectWith_failure _ s

theorem selectNodes_failure (ctx : RequestContext) (exec : Execution) (requested : List Int)
    (s : Site) {f : SchedulingFailure} :
    ((selectNodes ctx exec requested).run.run s).1 = .error f → f.kindName ∈ selectionKinds := by
  unfold selectNodes
  simp only [run_bind, run_get]
  split
  · simp only [run_bind, run_site]
    rcases hr : (selectTrialNodes exec).run.run s with ⟨_ | nodes, s₁⟩
    · rename_i g
      have hg : g.kindName ∈ selectionKinds := selectTrialNodes_failure exec s (by rw [hr])
      simp only
      split
      · rename_i heq
        cases heq
      · intro h
        simp only [run_bind, run_throw] at h
        cases h
        exact businessRule_kind _
      · split
        · intro h
          simp only [run_bind, run_throw] at h
          cases h
          exact businessRule_kind _
        · exact selectWith_failure _ s₁
      · rename_i heq
        cases heq
        split
        · intro h
          simp only [run_bind, run_throw] at h
          cases h
          exact hg
        · exact selectWith_failure _ s₁
    · intro h
      cases h
  · exact selectWith_failure _ s

/-- The kinds of failure a round ends with: the quota, the script, the selection, or a dispatch
that failed on every node. -/
def roundKinds : List String := ["QuotaExceeded", "InvalidScript", "DispatchFailed"] ++ selectionKinds

theorem primaryRound_failure {ctx : RequestContext} {exec : Execution} {req : StartRequest}
    {s s' : Site} {f : SchedulingFailure} (h : primaryRound ctx exec req s = (.error f, s')) :
    f.kindName ∈ roundKinds := by
  unfold primaryRound at h
  split at h
  · cases h
    simp [roundKinds, SchedulingFailure.kindName]
  · split at h
    · rename_i g hg
      cases h
      obtain ⟨e, -, rfl⟩ := mapError_error hg
      simp [roundKinds, SchedulingFailure.kindName]
    · split at h
      · rename_i s₁ hsel
        cases h
        exact List.mem_append_right _ (selectNodes_failure ctx exec req.nodeIds s (by rw [hsel]))
      · split at h
        · rename_i g hg
          cases h
          obtain ⟨e, -, rfl⟩ := mapError_error hg
          simp [roundKinds, SchedulingFailure.kindName]
        · dsimp only at h
          split at h
          · cases h
            simp [roundKinds, SchedulingFailure.kindName]
          · cases h

/-- The kinds of failure that refuse a start before any write: the execution missing or not the
caller's, already running, a relayed start naming no nodes, or a start in flight. -/
def startRefusals : List String := ["NotFound", "Forbidden", "AlreadyRunning", "MissingTargets", "InFlight"]

theorem roundKinds_not_refusal : ∀ k ∈ roundKinds, k ∉ startRefusals := by decide

/-- A start refused as not found, forbidden, already running, naming no targets or in flight
leaves the database as it was: a round that ran after the lock was taken fails with other kinds. -/
theorem start_refused_db (ctx : RequestContext) (req : StartRequest) (s : Site) {f : SchedulingFailure}
    (hf : ((start ctx req).run.run s).1 = .error f) (hkind : f.kindName ∈ startRefusals) :
    ((start ctx req).run.run s).2.db = s.db := by
  cases hb : req.broadcast with
  | false => exact start_relayed_db ctx req hb s
  | true =>
    rw [run_start_broadcast ctx req hb s] at hf ⊢
    rcases hpre : precheck ctx req s with g | exec
    · rfl
    · simp only [hpre] at hf ⊢
      by_cases hacq : (acquireRestart s exec).1 = true
      · simp only [hacq, if_true] at hf
        have hround : primaryRound ctx exec req { s with db := (acquireRestart s exec).2 } =
            (.error f, (primaryRound ctx exec req { s with db := (acquireRestart s exec).2 }).2) := by
          rw [← hf]
        exact absurd hkind (roundKinds_not_refusal _ (primaryRound_failure hround))
      · have hfalse : (acquireRestart s exec).1 = false := by simpa using hacq
        simp only [hfalse, Bool.false_eq_true, if_false]
        exact Database.tryAcquire_db_of_false hfalse

/-- The checks of a broadcast start pass exactly when the execution is live, the caller's, not
running, and its tenant is within the quota. -/
theorem precheck_eq_ok_iff {ctx : RequestContext} {req : StartRequest} {s : Site} {exec : Execution} :
    precheck ctx req s = .ok exec ↔ s.db.execution? req.executionId = some exec ∧
      ctx.mayOperate exec.tenantId = true ∧ exec.status ≠ .running ∧
      s.db.countRunning exec.tenantId exec.id < s.ctl.config.maxConcurrentExecutions := by
  constructor
  · intro h
    unfold precheck at h
    rw [run_load] at h
    rcases hx : s.db.execution? req.executionId with _ | e
    · simp [hx] at h
    · simp only [hx] at h
      by_cases hmay : ctx.mayOperate e.tenantId = true
      · simp only [hmay, if_true] at h
        split_ifs at h with hrun hq
        cases h
        exact ⟨rfl, hmay, by simpa using hrun, by omega⟩
      · simp [hmay] at h
  · rintro ⟨hexec, hmay, hrun, hq⟩
    unfold precheck
    rw [run_load]
    have hq' : ¬ s.ctl.config.maxConcurrentExecutions ≤ s.db.countRunning exec.tenantId exec.id := by
      omega
    simp [hexec, hmay, hrun, hq']

/-- A broadcast start of an execution whose tenant has reached its quota is refused before the
lock, with nothing changed. -/
theorem start_over_quota (ctx : RequestContext) (req : StartRequest) (s : Site) (exec : Execution)
    (hb : req.broadcast = true) (hexec : s.db.execution? req.executionId = some exec)
    (hmay : ctx.mayOperate exec.tenantId = true) (hrun : exec.status ≠ .running)
    (hq : s.ctl.config.maxConcurrentExecutions ≤ s.db.countRunning exec.tenantId exec.id) :
    (start ctx req).run.run s = (.error (.quotaExceeded s.ctl.config.maxConcurrentExecutions), s) := by
  have hpre : precheck ctx req s = .error (.quotaExceeded s.ctl.config.maxConcurrentExecutions) := by
    unfold precheck
    rw [run_load]
    simp [hexec, hmay, hrun, hq]
  rw [run_start_broadcast ctx req hb s, hpre]

def stopRefusals : List String := ["NotFound", "Forbidden", "MissingTargets", "InFlight"]

theorem stop_failed (ctx : RequestContext) (req : StopRequest) (s : Site) {f : SchedulingFailure}
    (hf : ((stop ctx req).run.run s).1 = .error f) :
    f.kindName ∈ stopRefusals ∧ (stop ctx req).run.run s = (.error f, s) := by
  unfold stop at hf ⊢
  simp only [run_bind, run_load] at hf ⊢
  rcases hx : s.db.execution? req.executionId with _ | exec
  · simp only [hx] at hf ⊢
    cases hf
    exact ⟨by simp [stopRefusals, SchedulingFailure.kindName], rfl⟩
  · simp only [hx] at hf ⊢
    by_cases hmay : ctx.mayOperate exec.tenantId = true
    · simp only [hmay, if_true] at hf ⊢
      by_cases hmiss : (!req.broadcast && req.nodeIds.isEmpty) = true
      · simp only [hmiss, if_true, run_bind, run_throw] at hf ⊢
        cases hf
        exact ⟨by simp [stopRefusals, SchedulingFailure.kindName], rfl⟩
      · simp only [hmiss, Bool.false_eq_true, if_false, run_bind, run_get] at hf ⊢
        by_cases hlock : (s.db.lockHolder (restartKey exec.id) s.now).isSome = true
        · simp only [hlock, if_true, run_bind, run_throw] at hf ⊢
          cases hf
          exact ⟨by simp [stopRefusals, SchedulingFailure.kindName], rfl⟩
        · -- past the lock check the stop answers with outcomes
          exfalso
          simp only [hlock, Bool.false_eq_true, if_false, run_bind, run_site, run_dispatchLocal] at hf
          split at hf
          · cases hf
          · simp only [run_bind, run_get, run_site, run_relayNodes, run_modifyDb, run_updateDb,
              run_pure] at hf
            cases hf
    · simp only [hmay, Bool.false_eq_true, if_false] at hf ⊢
      cases hf
      exact ⟨by simp [stopRefusals, SchedulingFailure.kindName], rfl⟩

def completeRefusals : List String := ["NotFound", "Forbidden", "BusinessRule"]

theorem complete_failed (ctx : RequestContext) (id : Int) (report : CompletionReport) (s : Site)
    {f : SchedulingFailure} (hf : ((complete ctx id report).run.run s).1 = .error f) :
    f.kindName ∈ completeRefusals ∧ (complete ctx id report).run.run s = (.error f, s) := by
  unfold complete at hf ⊢
  simp only [run_bind, run_load] at hf ⊢
  rcases hx : s.db.execution? id with _ | exec
  · simp only [hx] at hf ⊢
    cases hf
    exact ⟨by simp [completeRefusals, SchedulingFailure.kindName], rfl⟩
  · simp only [hx] at hf ⊢
    by_cases hmay : ctx.mayOperate exec.tenantId = true
    · simp only [hmay, if_true] at hf ⊢
      by_cases hterm : report.status.isTerminal = true
      · -- a terminal report is recorded and judged: the execution loads again and the result is kept
        exfalso
        simp only [hterm, Bool.not_true, Bool.false_eq_true, if_false, run_bind, run_get,
          run_modifyDb, run_load] at hf
        obtain ⟨e, he, hten⟩ := Database.execution?_finish hx ⟨report.summary, report.usage, report.cases⟩
          report.status report.failureMessage s.now exec.nodeIds
        rw [← hten] at hmay
        simp only [he, hmay, if_true, run_updateDb] at hf
        cases hf
      · have hfalse : report.status.isTerminal = false := by simpa using hterm
        simp only [hfalse, Bool.not_false, if_true, run_bind, run_throw] at hf ⊢
        cases hf
        exact ⟨by simp [completeRefusals, SchedulingFailure.kindName], rfl⟩
    · simp only [hmay, Bool.false_eq_true, if_false] at hf ⊢
      cases hf
      exact ⟨by simp [completeRefusals, SchedulingFailure.kindName], rfl⟩

/-- A start takes its execution's restart lock exactly when it is a broadcast start whose checks
pass and the lock is free at its clock. -/
def StartTakesLock (ctx : RequestContext) (req : StartRequest) (s : Site) : Prop :=
  req.broadcast = true ∧ ∃ exec, precheck ctx req s = .ok exec ∧
    s.db.lockHolder (restartKey req.executionId) s.now = none

/-- A start that takes the lock deletes its entry before it answers, whatever its round did; every
other entry stays. -/
theorem start_gives_lock_back {ctx : RequestContext} {req : StartRequest} {s : Site}
    (hdb : s.db.LocksKeyed) (h : StartTakesLock ctx req s) :
    ((start ctx req).run.run s).2.db.locks =
      s.db.locks.filter (fun l => decide (l.key ≠ restartKey req.executionId)) := by
  obtain ⟨hb, exec, hpre, hfree⟩ := h
  have hid : exec.id = req.executionId := Database.execution?_id (precheck_ok hpre).1
  have hacq : (acquireRestart s exec).1 = true := by
    unfold acquireRestart
    rw [hid]
    exact (Database.lockHolder_eq_none_iff _ _ _ _ _).1 hfree
  rw [run_start_broadcast ctx req hb s, hpre]
  simp only [hacq, if_true]
  calc (releaseRestart (primaryRound ctx exec req { s with db := (acquireRestart s exec).2 }).2.db
          exec).locks
      = ((acquireRestart s exec).2.release (restartKey exec.id) (toString exec.id)).locks := by
        simp only [releaseRestart, Database.release, primaryRound_locks]
    _ = s.db.locks.filter (fun l => decide (l.key ≠ restartKey req.executionId)) := by
        rw [← hid]
        exact Database.release_tryAcquire hdb hacq

theorem start_keeps_locks {ctx : RequestContext} {req : StartRequest} {s : Site}
    (h : ¬ StartTakesLock ctx req s) : ((start ctx req).run.run s).2.db.locks = s.db.locks := by
  cases hb : req.broadcast with
  | false => rw [start_relayed_db ctx req hb s]
  | true =>
    rw [run_start_broadcast ctx req hb s]
    rcases hpre : precheck ctx req s with f | exec
    · rfl
    · have hid : exec.id = req.executionId := Database.execution?_id (precheck_ok hpre).1
      have hheld : s.db.lockHolder (restartKey req.executionId) s.now ≠ none :=
        fun hfree => h ⟨hb, exec, hpre, hfree⟩
      have hfalse : (acquireRestart s exec).1 = false := by
        rw [← hid] at hheld
        unfold acquireRestart
        simpa [Database.lockHolder_eq_none_iff _ _ (toString exec.id)
          s.ctl.config.dispatch.lockTtlSecs] using hheld
      simp only [hfalse, Bool.false_eq_true, if_false]
      exact congrArg Database.locks (Database.tryAcquire_db_of_false hfalse)

/-- Refused requests leave the store as it was, and the restart lock always goes back: refused
starts, stops, completions and thread updates change nothing, and a start that took the lock deletes
its entry on every path of its round. -/
theorem refusals_leave_store_intact :
    (∀ ctx req (s : Site) f, ((start ctx req).run.run s).1 = .error f →
      f.kindName ∈ startRefusals → ((start ctx req).run.run s).2.db = s.db) ∧
    (∀ ctx req (s : Site) exec, req.broadcast = true →
      s.db.execution? req.executionId = some exec → ctx.mayOperate exec.tenantId = true →
      exec.status ≠ .running →
      s.ctl.config.maxConcurrentExecutions ≤ s.db.countRunning exec.tenantId exec.id →
      (start ctx req).run.run s = (.error (.quotaExceeded s.ctl.config.maxConcurrentExecutions), s)) ∧
    (∀ ctx req (s : Site) f, ((stop ctx req).run.run s).1 = .error f →
      f.kindName ∈ stopRefusals ∧ (stop ctx req).run.run s = (.error f, s)) ∧
    (∀ ctx id report (s : Site) f, ((complete ctx id report).run.run s).1 = .error f →
      f.kindName ∈ completeRefusals ∧ (complete ctx id report).run.run s = (.error f, s)) ∧
    (∀ (s : Site) id t r e, s.db.row? id = some r → applyThreads r.script t = .error e →
      s.db.updateThreads id t = .error e.message ∧ (Request.updateThreads id t).serve s = s.db) ∧
    (∀ ctx req (s : Site), s.db.LocksKeyed → StartTakesLock ctx req s →
      ((start ctx req).run.run s).2.db.locks =
        s.db.locks.filter (fun l => decide (l.key ≠ restartKey req.executionId))) ∧
    (∀ ctx req (s : Site), ¬ StartTakesLock ctx req s →
      ((start ctx req).run.run s).2.db.locks = s.db.locks) := by
  refine ⟨fun ctx req s _ hf hkind => start_refused_db ctx req s hf hkind,
    fun ctx req s exec hb hx hmay hrun hq => start_over_quota ctx req s exec hb hx hmay hrun hq,
    fun ctx req s _ hf => stop_failed ctx req s hf,
    fun ctx id report s _ hf => complete_failed ctx id report s hf, ?_,
    fun _ _ _ hdb h => start_gives_lock_back hdb h, fun _ _ _ h => start_keeps_locks h⟩
  intro s id t r e hr he
  have hupd := Database.updateThreads_unrewritable hr he
  exact ⟨hupd, by simp [Request.serve, hupd]⟩

def quotaFullSite : Site :=
  { db := { executions := [{ pendingRow with status := .running }, { pendingRow with id := 2 }] },
    ctl := { config := { maxConcurrentExecutions := 1 },
             router := { timeoutMs := 0, tailChars := 0 } },
    now := 1750000000000, siblings := .unreachable }

/-- Starting the pending execution is refused over quota before the lock, and the site is as it
was. -/
theorem quotaFull_start_refused_intact :
    (quotaFullSite.db.execution? 2).map (·.status) = some .pending ∧
      quotaFullSite.db.countRunning 1 2 = 1 ∧
      (start .system { executionId := 2 }).run.run quotaFullSite =
        (.error (.quotaExceeded 1), quotaFullSite) := by
  obtain ⟨exec, hx⟩ : ∃ exec, quotaFullSite.db.execution? 2 = some exec := ⟨_, rfl⟩
  have htenant : exec.tenantId = 1 ∧ exec.id = 2 ∧ exec.status = .pending := by
    simp only [quotaFullSite, Database.execution?, Database.row?] at hx
    cases hx
    exact ⟨rfl, rfl, rfl⟩
  obtain ⟨ht, hid, hst⟩ := htenant
  refine ⟨by simp [hx, hst], by decide, ?_⟩
  exact refusals_leave_store_intact.2.1 .system { executionId := 2 } quotaFullSite exec rfl hx rfl
    (by rw [hst]; decide) (by rw [ht, hid]; decide)

end Orchestrator

end LoadDispatch
