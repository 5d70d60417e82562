import LoadDispatch.Proofs.Shares
import LoadDispatch.Proofs.Selection
import LoadDispatch.Proofs.Dispatch

/-!
A start as a function of the site it runs on, so that properties of a start are read off one case
split: its checks, the restart lock and its round, which records a failure or marks the execution
`SCHEDULING`, sends the shares, relays the rest and records the outcomes.
-/
namespace LoadDispatch.Orchestrator

/-- The round of a broadcast start once the lock is held, step by step. -/
def primaryRound (ctx : RequestContext) (exec : Execution) (req : StartRequest) (s : Site) :
    Except SchedulingFailure (List NodeOutcome) × Site :=
  if s.db.countRunning exec.tenantId exec.id ≥ s.ctl.config.maxConcurrentExecutions then
    (.error (.quotaExceeded s.ctl.config.maxConcurrentExecutions),
      recordAt s exec.id (.quotaExceeded s.ctl.config.maxConcurrentExecutions))
  else match prepareScript exec with
  | .error f => (.error f, recordAt s exec.id f)
  | .ok script =>
    match (selectNodes ctx exec req.nodeIds).run.run s with
    | (.error f, s₁) => (.error f, recordAt s₁ exec.id f)
    | (.ok targets, s₁) =>
      let s₂ := { s₁ with db := (s₁.db.setStatus exec.id .scheduling).clearRunState exec.id }
      match shardCommands exec script targets (.over targets) with
      | .error f => (.error f, recordAt s₂ exec.id f)
      | .ok cmds =>
        let s₃ := { s₂ with ctl := { s₂.ctl with router := (s₂.ctl.router.dispatchAll cmds).2.2 } }
        let os := (s₂.ctl.router.dispatchAll cmds).1
        let unrouted := (s₂.ctl.router.dispatchAll cmds).2.1
        if unrouted.isEmpty && NodeOutcome.allTransport os then
          (.error (.dispatchFailed os), recordAt s₃ exec.id (.dispatchFailed os))
        else
          let outcomes := os ++ ((relayNodes (fun peer ts =>
            s₃.siblings.start peer (.relayed exec.id (.over targets) ts)) unrouted).run s₃).1
          let linked := s₃.db.addNodes exec.id (NodeOutcome.succeeded outcomes)
          let db := linked.recordSchedule exec.id (judgeDispatch exec.status outcomes).1 outcomes
            (judgeDispatch exec.status outcomes).2 s₃.now
          (.ok outcomes, { s₃ with db })

theorem run_startPrimary (ctx : RequestContext) (exec : Execution) (req : StartRequest)
    (s : Site) : (startPrimary ctx exec req).run.run s = primaryRound ctx exec req s := by
  unfold startPrimary primaryRound
  simp only [run_bind, run_recorded, run_checkQuota, run_liftResult, run_lift, site_run_modifyDb]
  by_cases hq : s.db.countRunning exec.tenantId exec.id ≥ s.ctl.config.maxConcurrentExecutions
  · simp only [hq, ↓reduceIte]
  · simp only [hq, ↓reduceIte]
    rcases hp : prepareScript exec with f | script
    · rfl
    · simp only
      rcases hsel : (selectNodes ctx exec req.nodeIds).run.run s with ⟨_ | targets, s₁⟩
      · rfl
      · simp only
        rcases hc : shardCommands exec script targets (ShardPlan.over targets) with f | cmds
        · rfl
        · simp only [run_site, run_dispatchLocal]
          by_cases hd : ((s₁.ctl.router.dispatchAll cmds).2.1.isEmpty &&
              NodeOutcome.allTransport (s₁.ctl.router.dispatchAll cmds).1) = true
          · rw [if_pos hd, if_pos hd]
            simp only [run_bind, run_site, run_recordFailure, run_throw]
          · rw [if_neg hd, if_neg hd]
            simp only [run_bind, run_site, run_get, run_lift, site_run_modifyDb, run_pure,
              run_relayNodes]

/-- A relayed start, step by step. -/
def secondaryRound (exec : Execution) (req : StartRequest) (s : Site) :
    Except SchedulingFailure (List NodeOutcome) × Site :=
  match prepareScript exec with
  | .error f => (.error f, s)
  | .ok script =>
    if s.db.lockHolder (restartKey exec.id) s.now != some (toString exec.id) then
      (.error (.startupTimeout exec.id), s)
    else match shardCommands exec script req.nodeIds (req.shardPlan.getD (.over req.nodeIds)) with
    | .error f => (.error f, s)
    | .ok cmds =>
      let s' := { s with ctl := { s.ctl with router := (s.ctl.router.dispatchAll cmds).2.2 } }
      let outcomes := (s.ctl.router.dispatchAll cmds).1 ++
        (s.ctl.router.dispatchAll cmds).2.1.map NodeOutcome.routerNotFound
      if NodeOutcome.allTransport outcomes then (.error (.dispatchFailed outcomes), s')
      else (.ok outcomes, s')

theorem run_startSecondary (exec : Execution) (req : StartRequest) (s : Site) :
    (startSecondary exec req).run.run s = secondaryRound exec req s := by
  unfold startSecondary secondaryRound
  simp only [run_bind, run_liftResult, run_get]
  rcases hp : prepareScript exec with f | script
  · rfl
  · simp only
    by_cases hl : (s.db.lockHolder (restartKey exec.id) s.now != some (toString exec.id)) = true
    · rw [if_pos hl, if_pos hl]
      rfl
    · rw [if_neg hl, if_neg hl]
      simp only [run_bind, run_liftResult]
      rcases hc : shardCommands exec script req.nodeIds
        (req.shardPlan.getD (ShardPlan.over req.nodeIds)) with f | cmds
      · rfl
      · simp only [run_site, run_dispatchLocal]
        split <;> rfl

/-- The checks a broadcast start makes before it takes the lock: the execution loads and may be
operated by the caller, is not running, and its tenant is within the quota. -/
def precheck (ctx : RequestContext) (req : StartRequest) (s : Site) :
    Except SchedulingFailure Execution :=
  match ((load ctx req.executionId).run.run s).1 with
  | .error f => .error f
  | .ok exec =>
    if exec.status == .running then .error (.alreadyRunning exec.id)
    else if s.db.countRunning exec.tenantId exec.id ≥ s.ctl.config.maxConcurrentExecutions then
      .error (.quotaExceeded s.ctl.config.maxConcurrentExecutions)
    else .ok exec

theorem load_ok {ctx : RequestContext} {id : Int} {s : Site} {e : Execution}
    (h : ((load ctx id).run.run s).1 = .ok e) : s.db.execution? id = some e := by
  rw [run_load] at h
  split at h
  · cases h
  · rename_i he
    split at h
    · cases h
      exact he
    · cases h

theorem precheck_ok {ctx : RequestContext} {req : StartRequest} {s : Site} {exec : Execution}
    (h : precheck ctx req s = .ok exec) :
    s.db.execution? req.executionId = some exec ∧ exec.status ≠ .running := by
  unfold precheck at h
  split at h
  · cases h
  · rename_i hload
    split at h
    · cases h
    · rename_i hrun
      split at h
      · cases h
      · cases h
        exact ⟨load_ok hload, by simpa using hrun⟩

/-- The restart lock of an execution as a broadcast start takes it: the execution id is the
token, the instance's lifetime the lifetime. -/
def acquireRestart (s : Site) (exec : Execution) : Bool × Database :=
  s.db.tryAcquire (restartKey exec.id) (toString exec.id) s.ctl.config.dispatch.lockTtlSecs s.now

def releaseRestart (db : Database) (exec : Execution) : Database :=
  db.release (restartKey exec.id) (toString exec.id)

/-- A broadcast start checks, takes the lock or reports the start in flight, runs its round and
gives the lock back. -/
theorem run_start_broadcast (ctx : RequestContext) (req : StartRequest) (hb : req.broadcast = true)
    (s : Site) :
    (start ctx req).run.run s = match precheck ctx req s with
      | .error f => (.error f, s)
      | .ok exec =>
        if (acquireRestart s exec).1 then
          ((primaryRound ctx exec req { s with db := (acquireRestart s exec).2 }).1,
            let s' := (primaryRound ctx exec req { s with db := (acquireRestart s exec).2 }).2
            { s' with db := releaseRestart s'.db exec })
        else (.error (.inFlight exec.id), { s with db := (acquireRestart s exec).2 }) := by
  obtain ⟨L, hL⟩ : ∃ L, (load ctx req.executionId).run.run s = (L, s) :=
    ⟨_, run_load ctx req.executionId s⟩
  unfold start precheck
  simp only [run_bind, hL, hb, if_true, Bool.not_true, Bool.false_eq_true, if_false]
  rcases L with f | exec
  · rfl
  · simp only
    by_cases hr : (exec.status == .running) = true
    · rw [if_pos hr, if_pos hr]
      rfl
    · rw [if_neg hr, if_neg hr]
      simp only [run_bind, run_checkQuota]
      by_cases hq : s.db.countRunning exec.tenantId exec.id ≥ s.ctl.config.maxConcurrentExecutions
      · simp only [hq, ↓reduceIte]
      · simp only [hq, ↓reduceIte, run_get, run_updateDb]
        unfold acquireRestart releaseRestart
        by_cases ha : (s.db.tryAcquire (restartKey exec.id) (toString exec.id)
            s.ctl.config.dispatch.lockTtlSecs s.now).1 = true
        · simp only [ha, Bool.not_true, Bool.false_eq_true, if_false, if_true, run_bind,
            run_site, run_startPrimary, run_modifyDb, run_liftResult]
        · simp only [ha, Bool.not_false, if_true, Bool.false_eq_true, if_false, run_bind, run_throw]

/-! ### What a round sends and whom it asks -/

def roundTargets (ctx : RequestContext) (exec : Execution) (req : StartRequest) (s : Site) :
    List Int :=
  match ((selectNodes ctx exec req.nodeIds).run.run s).1 with
  | .ok targets => targets
  | .error _ => []

theorem roundTargets_selected (ctx : RequestContext) (exec : Execution) (req : StartRequest)
    (s : Site) : roundTargets ctx exec req s = [] ∨ Selected s.db (roundTargets ctx exec req s) := by
  have hs := (selectNodes_run ctx exec req.nodeIds s).2
  unfold roundTargets
  rcases h : ((selectNodes ctx exec req.nodeIds).run.run s).1 with f | targets
  · exact .inl rfl
  · exact .inr (hs targets h)

/-- A round leaves the routes as they were, or has sent the commands written for the targets it
selected under the plan over them. -/
theorem primaryRound_router (ctx : RequestContext) (exec : Execution) (req : StartRequest)
    (s : Site) :
    (primaryRound ctx exec req s).2.ctl.router = s.ctl.router ∨
      ∃ script cmds, prepareScript exec = .ok script ∧
        shardCommands exec script (roundTargets ctx exec req s)
          (.over (roundTargets ctx exec req s)) = .ok cmds ∧
        (primaryRound ctx exec req s).2.ctl.router = (s.ctl.router.dispatchAll cmds).2.2 := by
  unfold primaryRound
  by_cases hq : s.db.countRunning exec.tenantId exec.id ≥ s.ctl.config.maxConcurrentExecutions
  · simp only [hq, ↓reduceIte]
    exact .inl rfl
  · simp only [hq, ↓reduceIte]
    rcases hp : prepareScript exec with f | script
    · exact .inl rfl
    · simp only
      have hm := (selectNodes_run ctx exec req.nodeIds s).1
      rcases hsel : (selectNodes ctx exec req.nodeIds).run.run s with ⟨_ | targets, s₁⟩
      · rw [hsel] at hm
        exact .inl hm.router
      · rw [hsel] at hm
        have hT : roundTargets ctx exec req s = targets := by simp [roundTargets, hsel]
        simp only
        rcases hc : shardCommands exec script targets (.over targets) with f | cmds
        · exact .inl hm.router
        · refine .inr ⟨script, cmds, rfl, by rw [hT]; exact hc, ?_⟩
          simp only
          rw [← hm.router]
          split <;> rfl

/-- The round asks its siblings only for relayed starts of sub-lists of its targets under the
plan over them: siblings that answer those alike give the same round. -/
theorem primaryRound_siblings (ctx : RequestContext) (exec : Execution) (req : StartRequest)
    (s : Site) (sib : Siblings)
    (hsib : ∀ peer ts, ts.Sublist (roundTargets ctx exec req s) →
      sib.start peer (.relayed exec.id (.over (roundTargets ctx exec req s)) ts) =
        s.siblings.start peer (.relayed exec.id (.over (roundTargets ctx exec req s)) ts)) :
    primaryRound ctx exec req { s with siblings := sib } =
      ((primaryRound ctx exec req s).1, { (primaryRound ctx exec req s).2 with siblings := sib }) := by
  unfold primaryRound
  by_cases hq : s.db.countRunning exec.tenantId exec.id ≥ s.ctl.config.maxConcurrentExecutions
  · simp only [hq, ↓reduceIte]
    rfl
  · simp only [hq, ↓reduceIte]
    rcases prepareScript exec with f | script
    · rfl
    · simp only
      rw [selectNodes_siblings]
      rcases hsel : (selectNodes ctx exec req.nodeIds).run.run s with ⟨_ | targets, s₁⟩
      · rfl
      · have hT : roundTargets ctx exec req s = targets := by simp [roundTargets, hsel]
        have hs₁ : s₁.siblings = s.siblings := by
          have hm := (selectNodes_run ctx exec req.nodeIds s).1
          rw [hsel] at hm
          exact hm.siblings
        rw [hT, ← hs₁] at hsib
        simp only
        rcases hc : shardCommands exec script targets (.over targets) with f | cmds
        · rfl
        · simp only
          have hunrouted : (s₁.ctl.router.dispatchAll cmds).2.1.Sublist targets := by
            have h := (Router.dispatchAll_nodes s₁.ctl.router cmds).2
            rwa [(shardCommands_ok hc).1] at h
          split
          · rfl
          · simp only [run_relayNodes]
            rw [relay_congr _ _ _ (fun peer ts h => hsib peer ts (h.trans hunrouted))]

end LoadDispatch.Orchestrator
