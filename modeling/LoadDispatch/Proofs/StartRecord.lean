import LoadDispatch.Proofs.RoundEffects
import LoadDispatch.Proofs.Exclusion

/-!
What a broadcast start that took the restart lock leaves in the execution's row: one more attempt
whichever way the round ends, the outcomes and the judged status when it answers, and `PENDING` or
`FAILED`, never `SCHEDULING`, when it fails.
-/
namespace LoadDispatch

namespace SchedulingFailure

/-- A failure leaves the execution `PENDING` exactly when no node could be had. -/
theorem resultingStatus_eq_pending_iff (f : SchedulingFailure) :
    f.resultingStatus = .pending ↔ (∃ r, f = .noNodes r) ∨ ∃ n, f = .nodeNotLive n := by
  cases f <;> simp [resultingStatus, isTransient]

theorem resultingStatus_pending_or_failed (f : SchedulingFailure) :
    f.resultingStatus = .pending ∨ f.resultingStatus = .failed := by
  unfold resultingStatus
  split
  · exact .inl rfl
  · exact .inr rfl

end SchedulingFailure

namespace NodeOutcome

theorem succeeded_nodup : ∀ {os : List NodeOutcome}, (os.map (·.nodeId)).Nodup →
    (succeeded os).Nodup
  | [], _ => List.nodup_nil
  | o :: os, hnd => by
    rw [List.map_cons, List.nodup_cons] at hnd
    have hrest := succeeded_nodup hnd.2
    unfold succeeded at hrest ⊢
    rw [List.filterMap_cons]
    split
    · exact hrest
    · rename_i n hn
      refine List.nodup_cons.mpr ⟨fun hmem => hnd.1 ?_, hrest⟩
      obtain ⟨o', ho', hn'⟩ := List.mem_filterMap.mp hmem
      have hid : o'.nodeId = some n := by
        by_cases hs : o'.success <;> simp_all
      have hn0 : o.nodeId = some n := by
        by_cases hs : o.success <;> simp_all
      exact List.mem_map.mpr ⟨o', ho', hid.trans hn0.symm⟩

end NodeOutcome

namespace Orchestrator

/-- How a round's outcomes judge the status over the prior one, with the failure message kept:
`RUNNING` exactly when some node accepted; `FAILED` with the first outcome's message when every
runner failed to start; otherwise the prior status. -/
def Judged (prior : ExecutionStatus) (os : List NodeOutcome) (status : ExecutionStatus)
    (message : Option String) : Prop :=
  (status = .running ↔ ∃ o ∈ os, o.success = true) ∧
  ((∀ o ∈ os, o.success = false ∧ o.kind = .startException) →
    status = .failed ∧ message = os.head?.map (·.message)) ∧
  ((∀ o ∈ os, o.success = false) → (∃ o ∈ os, o.kind ≠ .startException) → status = prior)

theorem judgeDispatch_judged {prior : ExecutionStatus} {os : List NodeOutcome}
    (hprior : prior ≠ .running) (hne : os ≠ []) (old : Option String) :
    Judged prior os (judgeDispatch prior os).1 ((judgeDispatch prior os).2.or old) := by
  by_cases hs : os.any (·.success) = true
  · -- some node accepted
    have hj : judgeDispatch prior os = (.running, none) := by
      unfold judgeDispatch
      rw [if_pos hs]
    obtain ⟨o, ho, hos⟩ : ∃ o ∈ os, o.success = true := by simpa using hs
    rw [hj]
    refine ⟨iff_of_true rfl ⟨o, ho, hos⟩, fun h => ?_, fun h => ?_⟩
    · simp [(h o ho).1] at hos
    · simp [h o ho] at hos
  · have hnone : ∀ o ∈ os, o.success = false := by simpa using hs
    have hnone' : ¬ ∃ o ∈ os, o.success = true := fun ⟨o, ho, h⟩ => by simp [hnone o ho] at h
    obtain ⟨o, rest, rfl⟩ := List.exists_cons_of_ne_nil hne
    by_cases ha : (!(o :: rest).isEmpty && (o :: rest).all (·.kind == .startException)) = true
    · -- every runner failed to start
      have hj : judgeDispatch prior (o :: rest) = (.failed, some o.message) := by
        unfold judgeDispatch
        rw [if_neg hs, if_pos ha]
        rfl
      have hall : ∀ o' ∈ o :: rest, o'.kind = .startException := by simpa using ha
      rw [hj]
      exact ⟨iff_of_false (by simp) hnone', fun _ => ⟨rfl, rfl⟩,
        fun _ ⟨o', ho', hk⟩ => absurd (hall o' ho') hk⟩
    · have hj : judgeDispatch prior (o :: rest) = (prior, some o.message) := by
        unfold judgeDispatch
        rw [if_neg hs, if_neg ha]
        rfl
      rw [hj]
      refine ⟨iff_of_false hprior hnone', fun h => ?_, fun _ _ => rfl⟩
      exact absurd (by simpa using fun o' ho' => (h o' ho').2) ha

section Judged

variable {prior status : ExecutionStatus} {os : List NodeOutcome} {message : Option String}

theorem Judged.none_succeeded (h : Judged prior os status message) (hs : status ≠ .running) :
    ∀ o ∈ os, o.success = false := by
  intro o ho
  cases hos : o.success
  · rfl
  · exact absurd (h.1.mpr ⟨o, ho, hos⟩) hs

/-- A judged status is `RUNNING`, `FAILED` or the prior one. -/
theorem Judged.status_cases (h : Judged prior os status message) :
    status = .running ∨ status = .failed ∨ status = prior := by
  by_cases hrun : status = .running
  · exact .inl hrun
  have hnone := h.none_succeeded hrun
  by_cases hk : ∀ o ∈ os, o.kind = .startException
  · exact .inr (.inl (h.2.1 fun o ho => ⟨hnone o ho, hk o ho⟩).1)
  · exact .inr (.inr (h.2.2 hnone (by simpa using hk)))

theorem Judged.scheduling (h : Judged prior os status message) (hs : status = .scheduling) :
    prior = .scheduling := by
  rcases h.status_cases with h' | h' | h'
  · rw [hs] at h'
    cases h'
  · rw [hs] at h'
    cases h'
  · rw [← h', hs]

/-- Over a prior status other than `FAILED`, the judged status is `FAILED` exactly when every
runner failed to start. -/
theorem Judged.failed_iff (h : Judged prior os status message) (hprior : prior ≠ .failed) :
    status = .failed ↔ ∀ o ∈ os, o.success = false ∧ o.kind = .startException := by
  refine ⟨fun hs => ?_, fun hall => (h.2.1 hall).1⟩
  have hnone := h.none_succeeded (by rw [hs]; decide)
  by_cases hk : ∀ o ∈ os, o.kind = .startException
  · exact fun o ho => ⟨hnone o ho, hk o ho⟩
  · -- otherwise the prior status stays, and it is not `FAILED`
    exact absurd ((h.2.2 hnone (by simpa using hk)).symm.trans hs) hprior

end Judged

theorem primaryRound_ok_row {ctx : RequestContext} {exec : Execution} {req : StartRequest}
    {s s' : Site} {outcomes : List NodeOutcome} {r₀ : ExecutionRow}
    (h : primaryRound ctx exec req s = (.ok outcomes, s')) (hrow : s.db.row? exec.id = some r₀) :
    ∃ r₁, s'.db.row? exec.id = some r₁ ∧ r₁.scheduleCount = r₀.scheduleCount + 1 ∧
      r₁.scheduleResult = outcomes ∧ r₁.status = (judgeDispatch exec.status outcomes).1 ∧
      r₁.failureMessage = (judgeDispatch exec.status outcomes).2.or r₀.failureMessage := by
  obtain ⟨_, _, _, hdb⟩ := primaryRound_ok h
  rw [hdb, Database.row?_recordSchedule, Database.row?_addNodes, Database.row?_clearRunState,
    Database.row?_setStatus, hrow]
  exact ⟨_, rfl, rfl, rfl, rfl, rfl⟩

theorem primaryRound_error_row {ctx : RequestContext} {exec : Execution} {req : StartRequest}
    {s s' : Site} {f : SchedulingFailure} {r₀ : ExecutionRow}
    (h : primaryRound ctx exec req s = (.error f, s')) (hrow : s.db.row? exec.id = some r₀) :
    ∃ r₁, s'.db.row? exec.id = some r₁ ∧ r₁.scheduleCount = r₀.scheduleCount + 1 ∧
      r₁.status = f.resultingStatus := by
  rcases primaryRound_error h with hdb | hdb
  · rw [hdb, Database.row?_recordSchedule, hrow]
    exact ⟨_, rfl, rfl, rfl⟩
  · rw [hdb, Database.row?_recordSchedule, Database.row?_clearRunState, Database.row?_setStatus,
      hrow]
    exact ⟨_, rfl, rfl, rfl⟩

theorem primaryRound_ok_nodeIds {ctx : RequestContext} {exec : Execution} {req : StartRequest}
    {s s' : Site} {outcomes : List NodeOutcome} (h : primaryRound ctx exec req s = (.ok outcomes, s'))
    (hdb : s.db.NodeIdsUnique) :
    (s'.db.nodeIds exec.id).Perm (NodeOutcome.succeeded outcomes) := by
  obtain ⟨targets, hsel, hperm, hdb'⟩ := primaryRound_ok h
  have hnd : (outcomes.map (·.nodeId)).Nodup :=
    (hperm hdb).nodup_iff.mpr ((hsel.nodup hdb).map (Option.some_injective _))
  rw [hdb', Database.nodeIds_recordSchedule]
  exact Database.nodeIds_addNodes_clearRunState _ _ (NodeOutcome.succeeded_nodup hnd)

/-- A broadcast start ends one of three ways: refused by its checks, the site as it was; found
in flight at the lock, the site as it was; or its round run on the database with the lock taken,
then the lock given back. -/
theorem run_start_cases (ctx : RequestContext) (req : StartRequest) (hb : req.broadcast = true)
    (s : Site) :
    (∃ f, precheck ctx req s = .error f ∧ (start ctx req).run.run s = (.error f, s)) ∨
    (∃ exec, precheck ctx req s = .ok exec ∧
      (start ctx req).run.run s = (.error (.inFlight exec.id), s)) ∨
    ∃ exec locks, precheck ctx req s = .ok exec ∧
      (start ctx req).run.run s =
        ((primaryRound ctx exec req { s with db := { s.db with locks } }).1,
          { (primaryRound ctx exec req { s with db := { s.db with locks } }).2 with
            db := releaseRestart
              (primaryRound ctx exec req { s with db := { s.db with locks } }).2.db exec }) := by
  rw [run_start_broadcast ctx req hb s]
  rcases hpre : precheck ctx req s with f | exec
  · exact .inl ⟨f, rfl, rfl⟩
  · simp only
    by_cases hacq : (acquireRestart s exec).1 = true
    · -- the lock taken changes the lock table only
      obtain ⟨locks, hlocks⟩ := Database.tryAcquire_eq_with_locks s.db (restartKey exec.id)
        (toString exec.id) s.ctl.config.dispatch.lockTtlSecs s.now
      have hacqdb : (acquireRestart s exec).2 = { s.db with locks } := hlocks
      refine .inr (.inr ⟨exec, locks, rfl, ?_⟩)
      simp only [hacq, if_true, hacqdb]
    · have hfail : (acquireRestart s exec).1 = false := by simpa using hacq
      have hsame : (acquireRestart s exec).2 = s.db := Database.tryAcquire_db_of_false hfail
      refine .inr (.inl ⟨exec, rfl, ?_⟩)
      simp only [hfail, Bool.false_eq_true, if_false, hsame]

/-- What a broadcast start leaves in the row of the execution it checked: one more attempt, and,
when it answers, one outcome per selected target, the accepting nodes linked and the status judged
from the outcomes; when it fails, `PENDING` exactly when no node could be had and `FAILED`
otherwise. -/
def AttemptRecorded (ctx : RequestContext) (req : StartRequest) (s : Site) (exec : Execution) :
    Prop :=
  ∃ r₀ r₁, s.db.row? exec.id = some r₀ ∧ ((start ctx req).run.run s).2.db.row? exec.id = some r₁ ∧
    r₁.scheduleCount = r₀.scheduleCount + 1 ∧
    match ((start ctx req).run.run s).1 with
    | .ok outcomes =>
      (∃ targets s₁, (selectNodes ctx exec req.nodeIds).run.run s = (.ok targets, s₁) ∧
        (outcomes.map (·.nodeId)).Perm (targets.map some)) ∧
      r₁.scheduleResult = outcomes ∧
      (((start ctx req).run.run s).2.db.nodeIds exec.id).Perm (NodeOutcome.succeeded outcomes) ∧
      Judged r₀.status outcomes r₁.status r₁.failureMessage ∧
      (r₁.status = .scheduling → r₀.status = .scheduling) ∧
      (r₀.status ≠ .failed →
        (r₁.status = .failed ↔ ∀ o ∈ outcomes, o.success = false ∧ o.kind = .startException))
    | .error f =>
      (r₁.status = .pending ↔ (∃ r, f = .noNodes r) ∨ ∃ n, f = .nodeNotLive n) ∧
      (r₁.status = .pending ∨ r₁.status = .failed)

/-- Every broadcast start that passed its checks and took the restart lock records its attempt,
over any nodes, agent replies and sibling answers with distinct node ids. -/
theorem start_records_attempt (ctx : RequestContext) (req : StartRequest) (s : Site)
    (exec : Execution) (hb : req.broadcast = true) (hdb : s.db.NodeIdsUnique)
    (hpre : precheck ctx req s = .ok exec) (hacq : (acquireRestart s exec).1 = true) :
    AttemptRecorded ctx req s exec := by
  obtain ⟨hload, hprior⟩ := precheck_ok hpre
  have hrow₀ : s.db.row? exec.id = some exec.toExecutionRow := by
    rw [Database.execution?_id hload]
    exact Database.execution?_row hload
  -- the acquire changes the lock table only, so the round sees the same rows, links and nodes
  obtain ⟨locks, hlocks⟩ := Database.tryAcquire_eq_with_locks s.db (restartKey exec.id)
    (toString exec.id) s.ctl.config.dispatch.lockTtlSecs s.now
  have hacqdb : (acquireRestart s exec).2 = { s.db with locks } := hlocks
  unfold AttemptRecorded
  rw [run_start_broadcast ctx req hb s, hpre]
  simp only [hacq, if_true, hacqdb]
  rcases hr : primaryRound ctx exec req { s with db := { s.db with locks } } with ⟨_ | outcomes, s'⟩
  · obtain ⟨r₁, hrow₁, hcount, hstatus⟩ := primaryRound_error_row hr hrow₀
    refine ⟨_, r₁, hrow₀, by simpa [releaseRestart] using hrow₁, hcount, ?_⟩
    simp only
    rw [hstatus]
    exact ⟨SchedulingFailure.resultingStatus_eq_pending_iff _,
      SchedulingFailure.resultingStatus_pending_or_failed _⟩
  · obtain ⟨targets, s₁, hsel, hperm, _⟩ := primaryRound_ok_selection hr
    obtain ⟨r₁, hrow₁, hcount, hresult, hstatus, hmsg⟩ := primaryRound_ok_row hr hrow₀
    have hperm' := hperm hdb
    have hsel₀ : (selectNodes ctx exec req.nodeIds).run.run s =
        (.ok targets, ((selectNodes ctx exec req.nodeIds).run.run s).2) := by
      have h := selectNodes_locks ctx exec req.nodeIds s locks
      rw [hsel] at h
      exact Prod.ext (Prod.mk.inj h).1.symm rfl
    have hselected : Selected s.db targets :=
      (selectNodes_run ctx exec req.nodeIds s).2 targets (by rw [hsel₀])
    have hne : outcomes ≠ [] := by
      intro hnil
      rw [hnil] at hperm'
      exact hselected.ne_nil (List.map_eq_nil_iff.mp (List.Perm.nil_eq hperm').symm)
    have hjudged : Judged exec.status outcomes r₁.status r₁.failureMessage := by
      rw [hstatus, hmsg]
      exact judgeDispatch_judged hprior hne _
    refine ⟨_, r₁, hrow₀, by simpa [releaseRestart] using hrow₁, hcount, ?_⟩
    simp only
    exact ⟨⟨targets, _, hsel₀, hperm'⟩, hresult,
      by simpa [releaseRestart] using primaryRound_ok_nodeIds hr hdb, hjudged,
      hjudged.scheduling, hjudged.failed_iff⟩

end Orchestrator

def acceptingSite : Site :=
  ⟨{ nodes := [nodeOne], executions := [Orchestrator.pendingRow] }, acceptingInstance,
    1750000000000, .unreachable⟩

/-- The system's start of the pending execution answers with node 1's acceptance, and its attempt
is recorded. -/
theorem acceptedStart_records_attempt :
    ((Orchestrator.start .system { executionId := 1 }).run.run acceptingSite).1.toOption.map
        (·.map (·.nodeId)) = some [some 1] ∧
      Orchestrator.AttemptRecorded .system { executionId := 1 } acceptingSite
        { Orchestrator.pendingRow with nodeIds := [] } := by
  refine ⟨by decide +kernel, Orchestrator.start_records_attempt _ _ _ _ rfl
    (List.nodup_singleton _) ?_ ?_⟩
  · rfl
  · rfl

end LoadDispatch
