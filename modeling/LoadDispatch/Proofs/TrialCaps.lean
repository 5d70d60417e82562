import LoadDispatch.Proofs.StartRecord
import LoadDispatch.Proofs.ScriptRewrite

/-!
Trial executions stay on the shared pool and within the trial caps: no tenant node is ever a
fallback for them, and their commands are test tasks within the thread and iteration caps, whichever
instance writes them.
-/
namespace LoadDispatch

namespace Database

/-- An enabled node of the shared pool. -/
def SharedNode (db : Database) (id : Int) : Prop :=
  ∃ n ∈ db.nodes, n.id = id ∧ n.enabled = true ∧ n.tenantId = none

theorem mem_candidates_shared {db : Database} {p : NodeInfo} (h : p ∈ db.candidates .shared) :
    db.SharedNode p.id := by
  unfold candidates at h
  obtain ⟨n, hn, rfl⟩ := List.mem_map.mp h
  obtain ⟨hsorted, hpass⟩ := List.mem_filter.mp hn
  have hnode : n ∈ db.nodes := (mem_sortBy _).mp hsorted
  simp only [Bool.and_eq_true, Node.inPool, Option.isNone_iff_eq_none] at hpass
  exact ⟨n, hnode, rfl, hpass.1, hpass.2⟩

end Database

theorem select_ok_candidates {shuffle : Shuffle} {db : Database} {now window : Int}
    {cursor cursor' : Nat} {req : SelectionRequest} {picked : List NodeInfo}
    (h : select shuffle db now window cursor req = (.ok picked, cursor')) :
    (∀ p ∈ picked, p ∈ db.candidates req.pool) ∧ picked.length ≤ max req.count 1 := by
  obtain ⟨cs, at_, -, hsub, rfl⟩ := select_ok h
  refine ⟨fun p hp => ?_, List.length_take_le _ _⟩
  have hcs : p ∈ cs :=
    (orderCandidates_perm shuffle cs req.strategy at_).subset (List.mem_of_mem_take hp)
  exact hsub.subset hcs

theorem select_of_candidates_nil (shuffle : Shuffle) {db : Database} (now window : Int)
    (cursor : Nat) {req : SelectionRequest} (h : db.candidates req.pool = []) :
    (select shuffle db now window cursor req).1 = .error (.noNodes req.pool.emptyReason) := by
  unfold select
  simp [h]

/-- An execution within the trial caps: at most `maxNodes` nodes asked for, and a load of at most
`maxThreads` threads and `maxIterations` iterations that runs at most `maxDurationSecs` seconds,
a load without a duration counting as none. -/
def TrialSettings.Admits (limits : TrialSettings) (exec : Execution) : Prop :=
  exec.nodeCount ≤ limits.maxNodes ∧ exec.shardBase.threadCount ≤ limits.maxThreads ∧
    exec.shardBase.iterationCount ≤ limits.maxIterations ∧
    exec.shardBase.durationSecs.getD 0 ≤ limits.maxDurationSecs

namespace Orchestrator

theorem trialViolation_eq_none_iff (limits : TrialSettings) (exec : Execution) :
    trialViolation limits exec = none ↔ limits.Admits exec := by
  unfold trialViolation TrialSettings.Admits
  dsimp only
  split_ifs <;> simp only [false_iff, true_iff, not_and, not_le] <;> omega

theorem selectWith_ok {req : SelectionRequest} {s s' : Site} {targets : List Int}
    (h : (selectWith req).run.run s = (.ok targets, s')) :
    ∃ window cursor' picked,
      select s.ctl.shuffle s.db s.now window s.ctl.cursor req = (.ok picked, cursor') ∧
      targets = picked.map (·.id) := by
  unfold selectWith at h
  simp only [run_bind, run_get, run_set] at h
  rcases hsel : select s.ctl.shuffle s.db s.now
      (wrapI64 (s.ctl.config.dispatch.nodeLivenessSecs * 1000)) s.ctl.cursor req with
    ⟨_ | picked, cursor⟩
  · rw [hsel] at h
    cases h
  · rw [hsel] at h
    cases h
    exact ⟨_, cursor, picked, hsel, rfl⟩

/-- A trial's own selection passes only a trial execution within the caps, and picks enabled
shared nodes, at most `max maxNodes 1`. -/
theorem selectTrialNodes_ok {exec : Execution} (htrial : exec.trial = true) {s s' : Site}
    {targets : List Int} (h : (selectTrialNodes exec).run.run s = (.ok targets, s')) :
    s.ctl.config.trial.Admits exec ∧ (∀ t ∈ targets, s.db.SharedNode t) ∧
      targets.length ≤ max s.ctl.config.trial.maxNodes 1 := by
  unfold selectTrialNodes at h
  simp only [run_bind, run_get, htrial, if_true] at h
  cases hv : trialViolation s.ctl.config.trial exec with
  | some rule =>
    rw [hv] at h
    cases h
  | none =>
    rw [hv] at h
    obtain ⟨_, _, picked, hsel, rfl⟩ := selectWith_ok h
    obtain ⟨hcand, hlen⟩ := select_ok_candidates hsel
    refine ⟨(trialViolation_eq_none_iff _ _).mp hv, fun t ht => ?_, ?_⟩
    · obtain ⟨p, hp, rfl⟩ := List.mem_map.mp ht
      exact Database.mem_candidates_shared (hcand p hp)
    · -- the count asked for is already capped at `max maxNodes 1`
      dsimp only at hlen
      simp only [List.length_map]
      omega

/-- A trial execution takes its nodes from the trial's own selection only: the tenant's nodes are
never a fallback for it. -/
theorem selectNodes_trial_ok {ctx : RequestContext} {exec : Execution} (htrial : exec.trial = true)
    {requested : List Int} {s s' : Site} {targets : List Int}
    (h : (selectNodes ctx exec requested).run.run s = (.ok targets, s')) :
    (selectTrialNodes exec).run.run s = (.ok targets, s') := by
  unfold selectNodes at h
  simp only [run_bind, run_get, htrial, Bool.true_or, if_true, run_site] at h
  rcases hr : (selectTrialNodes exec).run.run s with ⟨r, s₁⟩
  rw [hr] at h
  simp only at h
  split at h
  · cases h
    rfl
  · cases h
  · -- no shared node is a business-rule failure for a trial execution
    simp only [run_bind, run_throw] at h
    cases h
  · simp only [run_bind, run_throw] at h
    cases h

theorem selectWith_of_candidates_nil {req : SelectionRequest} {s : Site}
    (h : s.db.candidates req.pool = []) :
    ((selectWith req).run.run s).1 = .error (.noNodes req.pool.emptyReason) := by
  unfold selectWith
  simp only [run_bind, run_get, run_set]
  have hnone := select_of_candidates_nil s.ctl.shuffle s.now
    (wrapI64 (s.ctl.config.dispatch.nodeLivenessSecs * 1000)) s.ctl.cursor h
  rcases hsel : select s.ctl.shuffle s.db s.now
      (wrapI64 (s.ctl.config.dispatch.nodeLivenessSecs * 1000)) s.ctl.cursor req with
    ⟨r, c⟩
  rw [hsel] at hnone
  cases hnone
  rfl

theorem selectTrialNodes_unshared {exec : Execution} (htrial : exec.trial = true) {s : Site}
    (hnone : s.db.candidates .shared = []) :
    ∃ f s₁, (selectTrialNodes exec).run.run s = (.error f, s₁) ∧
      ((∃ rule, f = .businessRule rule) ∨ ∃ reason, f = .noNodes reason) := by
  unfold selectTrialNodes
  simp only [run_bind, run_get, htrial, if_true]
  cases hv : trialViolation s.ctl.config.trial exec with
  | some rule => exact ⟨_, _, rfl, .inl ⟨rule, rfl⟩⟩
  | none =>
    refine ⟨_, _, Prod.ext (selectWith_of_candidates_nil hnone) rfl, .inr ⟨_, rfl⟩⟩

theorem selectNodes_trial_unshared (ctx : RequestContext) {exec : Execution}
    (htrial : exec.trial = true) (requested : List Int) {s : Site}
    (hnone : s.db.candidates .shared = []) :
    ∃ rule, ((selectNodes ctx exec requested).run.run s).1 = .error (.businessRule rule) := by
  obtain ⟨f, s₁, hr, hf⟩ := selectTrialNodes_unshared htrial hnone
  unfold selectNodes
  simp only [run_bind, run_get, htrial, Bool.true_or, if_true, run_site, hr]
  rcases hf with ⟨rule, rfl⟩ | ⟨reason, rfl⟩
  · exact ⟨rule, rfl⟩
  · simp only [run_bind, run_throw]
    exact ⟨_, rfl⟩

end Orchestrator

/-! ### The commands of a trial -/

theorem ThreadConfig.count_shard_le (c : ThreadConfig) (n : Nat) (first : Bool) (k : LoadCount) :
    (c.shard n first).count k ≤ c.count k := by
  by_cases hn : n ≤ 1
  · rw [c.shard_of_le_one hn]
  · rw [c.count_shard (by omega)]
    exact shareOf_le _ _ _

namespace Orchestrator

theorem shardCommands_mem {exec : Execution} {script : String} {targets : List Int}
    {plan : ShardPlan} {cmds : List (Int × AgentCommand)}
    (h : shardCommands exec script targets plan = .ok cmds) :
    ∀ p ∈ cmds, ∃ text, applyThreads script (plan.share exec.shardBase p.1) = .ok text ∧
      p.2 = { action := .run, executionId := exec.id, script := text, isTestTask := exec.trial,
              debug := exec.debug } := by
  refine (mapM_except_ok (g := Prod.fst) ?_ (mapError_ok h)).2
  intro node p hp
  rcases ha : applyThreads script (plan.share exec.shardBase node) with e | text <;>
    rw [ha] at hp <;> cases hp
  exact ⟨rfl, text, ha, rfl⟩

/-- A run command a trial may send: a test task of the execution carrying the prepared script with a
share of the load within the thread and iteration caps written in. -/
def TrialCommand (limits : TrialSettings) (exec : Execution) (p : Int × AgentCommand) : Prop :=
  p.2.action = .run ∧ p.2.executionId = exec.id ∧ p.2.isTestTask = true ∧
    ∃ share : ThreadConfig, share.threadCount ≤ limits.maxThreads ∧
      share.iterationCount ≤ limits.maxIterations ∧
      (∃ script, prepareScript exec = .ok script ∧ applyThreads script share = .ok p.2.script) ∧
      (limits.maxThreads ≤ Number.maxU64 → limits.maxIterations ≤ Number.maxU64 →
        ∀ doc, Json.parse p.2.script = .ok (.obj doc) → ∃ group,
          (Json.obj doc).get? "thread_group" = some group ∧
          group.get? "thread_count" = some (.ofNat share.threadCount) ∧
          group.get? "iteration_count" = some (.ofNat share.iterationCount))

theorem trialCommand_of_share {limits : TrialSettings} {exec : Execution}
    (htrial : exec.trial = true) (hadm : limits.Admits exec) {script text : String}
    {plan : ShardPlan} {node : Int} (hp : prepareScript exec = .ok script)
    (ha : applyThreads script (plan.share exec.shardBase node) = .ok text) :
    TrialCommand limits exec
      (node, { action := .run, executionId := exec.id, script := text, isTestTask := exec.trial,
               debug := exec.debug }) := by
  obtain ⟨_, hthreads, hiterations, -⟩ := hadm
  have hshareThreads : (plan.share exec.shardBase node).threadCount ≤ limits.maxThreads :=
    (exec.shardBase.count_shard_le _ _ .threads).trans hthreads
  have hshareIterations : (plan.share exec.shardBase node).iterationCount ≤ limits.maxIterations :=
    (exec.shardBase.count_shard_le _ _ .iterations).trans hiterations
  refine ⟨rfl, rfl, htrial, _, hshareThreads, hshareIterations, ⟨script, hp, ha⟩, ?_⟩
  intro hcapThreads hcapIterations doc hdoc
  obtain ⟨group, hgroup, hkeys⟩ := applyThreads_readBack ha hdoc
  refine ⟨group, hgroup, ?_, ?_⟩
  · exact (hkeys "thread_count" (by simp [ThreadConfig.managedKeys])).2 _ rfl
      (hshareThreads.trans hcapThreads)
  · exact (hkeys "iteration_count" (by simp [ThreadConfig.managedKeys])).2 _ rfl
      (hshareIterations.trans hcapIterations)

/-- Between two routers the agents received, after what they had, commands to nodes of `targets`
only, each one a trial may send. -/
def TrialSent (limits : TrialSettings) (exec : Execution) (targets : List Int) (r r' : Router) :
    Prop :=
  ∃ sent, r'.received = r.received ++ sent ∧ (sent.map (·.1)).Sublist targets ∧
    ∀ p ∈ sent, TrialCommand limits exec p

theorem TrialSent.refl (limits : TrialSettings) (exec : Execution) (targets : List Int)
    (r : Router) : TrialSent limits exec targets r r :=
  ⟨[], by simp, List.nil_sublist _, by simp⟩

theorem dispatchAll_trialSent {limits : TrialSettings} {exec : Execution}
    (htrial : exec.trial = true) {targets : List Int} (hadm : targets ≠ [] → limits.Admits exec)
    {script : String} {plan : ShardPlan} {cmds : List (Int × AgentCommand)}
    (hp : prepareScript exec = .ok script) (hc : shardCommands exec script targets plan = .ok cmds)
    (r : Router) : TrialSent limits exec targets r (r.dispatchAll cmds).2.2 := by
  obtain ⟨sent, hrec, hsub⟩ := r.dispatchAll_received cmds
  have hnodes := (shardCommands_ok hc).1
  refine ⟨sent, hrec, by rw [← hnodes]; exact hsub.map _, fun p hmem => ?_⟩
  have hcmd : p ∈ cmds := hsub.subset hmem
  have htarget : p.1 ∈ targets := hnodes ▸ List.mem_map_of_mem hcmd
  obtain ⟨text, ha, hp2⟩ := shardCommands_mem hc p hcmd
  obtain ⟨node, cmd⟩ := p
  dsimp only at hp2 ha
  subst hp2
  exact trialCommand_of_share htrial (hadm (List.ne_nil_of_mem htarget)) hp ha

end Orchestrator

namespace Orchestrator

/-! ### A round of a trial execution -/

theorem roundTargets_trial {exec : Execution} (htrial : exec.trial = true) (ctx : RequestContext)
    (req : StartRequest) (s : Site) :
    (∀ t ∈ roundTargets ctx exec req s, s.db.SharedNode t) ∧
      (roundTargets ctx exec req s).length ≤ max s.ctl.config.trial.maxNodes 1 ∧
      (roundTargets ctx exec req s ≠ [] → s.ctl.config.trial.Admits exec) := by
  unfold roundTargets
  rcases h : (selectNodes ctx exec req.nodeIds).run.run s with ⟨_ | targets, s'⟩
  · simp
  · obtain ⟨hadm, hshared, hlen⟩ := selectTrialNodes_ok htrial (selectNodes_trial_ok htrial h)
    exact ⟨hshared, hlen, fun _ => hadm⟩

/-- A round of a trial execution sends trial commands to its targets only. -/
theorem primaryRound_trialSent {exec : Execution} (htrial : exec.trial = true)
    (ctx : RequestContext) (req : StartRequest) (s : Site) :
    TrialSent s.ctl.config.trial exec (roundTargets ctx exec req s) s.ctl.router
      (primaryRound ctx exec req s).2.ctl.router := by
  rcases primaryRound_router ctx exec req s with h | ⟨script, cmds, hp, hc, h⟩
  · rw [h]
    exact TrialSent.refl _ _ _ _
  · rw [h]
    exact dispatchAll_trialSent htrial (roundTargets_trial htrial ctx req s).2.2 hp hc _

theorem startSecondary_trialSent {limits : TrialSettings} {exec : Execution}
    (htrial : exec.trial = true) (req : StartRequest)
    (hadm : req.nodeIds ≠ [] → limits.Admits exec) (s : Site) :
    TrialSent limits exec req.nodeIds s.ctl.router
      ((startSecondary exec req).run.run s).2.ctl.router := by
  rw [run_startSecondary]
  unfold secondaryRound
  rcases hp : prepareScript exec with f | script
  · exact TrialSent.refl _ _ _ _
  · simp only
    split
    · exact TrialSent.refl _ _ _ _
    · rcases hc : shardCommands exec script req.nodeIds
        (req.shardPlan.getD (ShardPlan.over req.nodeIds)) with f | cmds
      · exact TrialSent.refl _ _ _ _
      · simp only
        have h := dispatchAll_trialSent htrial hadm hp hc s.ctl.router
        split <;> exact h

/-- Without an enabled shared node a round of a trial execution fails, leaving the execution
`FAILED`, and sends nothing. -/
theorem primaryRound_trial_unshared {exec : Execution} (htrial : exec.trial = true)
    (ctx : RequestContext) (req : StartRequest) {s : Site}
    (hnone : s.db.candidates .shared = []) :
    ∃ f, (primaryRound ctx exec req s).1 = .error f ∧ f.resultingStatus = .failed ∧
      (primaryRound ctx exec req s).2.ctl.router = s.ctl.router := by
  unfold primaryRound
  split
  · exact ⟨_, rfl, rfl, rfl⟩
  · rcases hp : prepareScript exec with f | script
    · obtain ⟨e, -, rfl⟩ := mapError_error hp
      exact ⟨_, rfl, rfl, rfl⟩
    · simp only
      obtain ⟨rule, hrule⟩ := selectNodes_trial_unshared ctx htrial req.nodeIds hnone
      have hm := (selectNodes_run ctx exec req.nodeIds s).1
      rcases hsel : (selectNodes ctx exec req.nodeIds).run.run s with ⟨r, s₁⟩
      rw [hsel] at hrule hm
      dsimp only at hrule
      subst hrule
      exact ⟨_, rfl, rfl, hm.router⟩

theorem primaryRound_siblings_of_unselected (ctx : RequestContext) (exec : Execution)
    (req : StartRequest) (s : Site)
    (hsel : ∀ targets, ((selectNodes ctx exec req.nodeIds).run.run s).1 ≠ .ok targets)
    (sib : Siblings) :
    primaryRound ctx exec req { s with siblings := sib } =
      ((primaryRound ctx exec req s).1, { (primaryRound ctx exec req s).2 with siblings := sib }) := by
  unfold primaryRound
  by_cases hq : s.db.countRunning exec.tenantId exec.id ≥ s.ctl.config.maxConcurrentExecutions
  · simp only [hq, ↓reduceIte]
    rfl
  · simp only [hq, ↓reduceIte]
    rcases prepareScript exec with f | script
    · rfl
    · simp only
      rw [selectNodes_siblings]
      rcases h : (selectNodes ctx exec req.nodeIds).run.run s with ⟨_ | targets, s₁⟩
      · rfl
      · exact absurd (by rw [h]) (hsel targets)

/-! ### A broadcast start of a trial execution -/

theorem start_siblings {ctx : RequestContext} {req : StartRequest} (hb : req.broadcast = true)
    {s : Site} {sib : Siblings}
    (hround : ∀ exec, precheck ctx req s = .ok exec → (acquireRestart s exec).1 = true →
      primaryRound ctx exec req { s with db := (acquireRestart s exec).2, siblings := sib } =
        ((primaryRound ctx exec req { s with db := (acquireRestart s exec).2 }).1,
          { (primaryRound ctx exec req { s with db := (acquireRestart s exec).2 }).2 with
            siblings := sib })) :
    (start ctx req).run.run { s with siblings := sib } =
      (((start ctx req).run.run s).1, { ((start ctx req).run.run s).2 with siblings := sib }) := by
  rw [run_start_broadcast ctx req hb, run_start_broadcast ctx req hb]
  have hpre : precheck ctx req { s with siblings := sib } = precheck ctx req s := by
    unfold precheck
    rw [run_load, run_load]
  rw [hpre]
  rcases hp : precheck ctx req s with f | exec
  · rfl
  · have hacq : acquireRestart { s with siblings := sib } exec = acquireRestart s exec := rfl
    simp only [hacq]
    by_cases ha : (acquireRestart s exec).1 = true
    · simp only [ha, if_true]
      rw [hround exec hp ha]
    · simp only [ha, Bool.false_eq_true, if_false]

/-- What a broadcast start of a trial execution may do under its instance's caps: its targets are
enabled shared nodes, at most `max maxNodes 1`, and some only within the caps, and its agents and
its siblings' receive trial commands for targets only. -/
def TrialCapped (ctx : RequestContext) (req : StartRequest) (s : Site) (exec : Execution) : Prop :=
  ∃ targets, (∀ t ∈ targets, s.db.SharedNode t) ∧
    targets.length ≤ max s.ctl.config.trial.maxNodes 1 ∧
    (targets ≠ [] → s.ctl.config.trial.Admits exec) ∧
    TrialSent s.ctl.config.trial exec targets s.ctl.router
      ((start ctx req).run.run s).2.ctl.router ∧
    (∀ sib : Siblings, (∀ peer ts, ts.Sublist targets →
        sib.start peer (.relayed exec.id (.over targets) ts) =
          s.siblings.start peer (.relayed exec.id (.over targets) ts)) →
      (start ctx req).run.run { s with siblings := sib } =
        (((start ctx req).run.run s).1, { ((start ctx req).run.run s).2 with siblings := sib })) ∧
    ∀ ts, ts.Sublist targets → ∀ s₂ : Site,
      TrialSent s.ctl.config.trial exec ts s₂.ctl.router
        ((startSecondary exec (.relayed exec.id (.over targets) ts)).run.run s₂).2.ctl.router

theorem trialCapped_of_idle {ctx : RequestContext} {req : StartRequest} {s : Site}
    {exec : Execution} (htrial : exec.trial = true)
    (hrouter : ((start ctx req).run.run s).2.ctl.router = s.ctl.router)
    (hsib : ∀ sib : Siblings, (start ctx req).run.run { s with siblings := sib } =
      (((start ctx req).run.run s).1, { ((start ctx req).run.run s).2 with siblings := sib })) :
    TrialCapped ctx req s exec := by
  refine ⟨[], by simp, by simp, by simp, ?_, fun sib _ => hsib sib, ?_⟩
  · rw [hrouter]
    exact TrialSent.refl _ _ _ _
  · intro ts hts s₂
    exact startSecondary_trialSent htrial _ (fun hne => absurd (List.sublist_nil.mp hts) hne) s₂

theorem start_trialCapped (ctx : RequestContext) (req : StartRequest) (s : Site)
    {exec : Execution} (hb : req.broadcast = true)
    (hexec : s.db.execution? req.executionId = some exec) (htrial : exec.trial = true) :
    TrialCapped ctx req s exec := by
  rcases hp : precheck ctx req s with f | exec'
  · -- refused before the lock
    refine trialCapped_of_idle htrial (by rw [run_start_broadcast ctx req hb, hp]) fun sib => ?_
    exact start_siblings hb fun e he => by rw [hp] at he; cases he
  · obtain ⟨hexec', -⟩ := precheck_ok hp
    rw [hexec] at hexec'
    cases hexec'
    by_cases ha : (acquireRestart s exec).1 = true
    · -- the round runs on the site with the lock taken, which differs only in its locks
      obtain ⟨locks, hlocks⟩ := Database.tryAcquire_eq_with_locks s.db (restartKey exec.id)
        (toString exec.id) s.ctl.config.dispatch.lockTtlSecs s.now
      have hacqdb : (acquireRestart s exec).2 = { s.db with locks } := hlocks
      have hrun : ((start ctx req).run.run s).2.ctl.router =
          (primaryRound ctx exec req { s with db := { s.db with locks } }).2.ctl.router := by
        rw [run_start_broadcast ctx req hb, hp]
        simp only [ha, if_true, hacqdb]
      obtain ⟨hshared, hlen, hadm⟩ := roundTargets_trial htrial ctx req { s with db := { s.db with locks } }
      refine ⟨roundTargets ctx exec req { s with db := { s.db with locks } }, hshared, hlen, hadm,
        ?_, ?_, ?_⟩
      · rw [hrun]
        exact primaryRound_trialSent htrial ctx req _
      · intro sib hsib
        refine start_siblings hb fun e he _ => ?_
        rw [hp] at he
        cases he
        rw [hacqdb]
        exact primaryRound_siblings ctx exec req { s with db := { s.db with locks } } sib hsib
      · intro ts hts s₂
        refine startSecondary_trialSent htrial _ (fun hne => hadm fun hnil => hne ?_) s₂
        exact List.sublist_nil.mp (hnil ▸ hts)
    · -- the lock is held elsewhere: the start is in flight and sends nothing
      have hfail : (acquireRestart s exec).1 = false := by simpa using ha
      refine trialCapped_of_idle htrial ?_ fun sib => ?_
      · rw [run_start_broadcast ctx req hb, hp]
        simp only [hfail, Bool.false_eq_true, if_false]
      · refine start_siblings hb fun e he hae => ?_
        rw [hp] at he
        cases he
        exact absurd hae ha

/-- A broadcast start of a trial execution when the shared pool has no enabled node: it answers a
failure and sends nothing, whoever its siblings are, and once it has passed its checks and taken
the lock it leaves the execution `FAILED`. -/
def UnsharedTrialFails (ctx : RequestContext) (req : StartRequest) (s : Site) (exec : Execution) :
    Prop :=
  (∃ f, ((start ctx req).run.run s).1 = .error f) ∧
    ((start ctx req).run.run s).2.ctl.router = s.ctl.router ∧
    (∀ sib : Siblings, (start ctx req).run.run { s with siblings := sib } =
      (((start ctx req).run.run s).1, { ((start ctx req).run.run s).2 with siblings := sib })) ∧
    (precheck ctx req s = .ok exec → (acquireRestart s exec).1 = true →
      ∃ r, ((start ctx req).run.run s).2.db.row? exec.id = some r ∧ r.status = .failed)

theorem start_unsharedTrialFails (ctx : RequestContext) (req : StartRequest) (s : Site)
    {exec : Execution} (hb : req.broadcast = true)
    (hexec : s.db.execution? req.executionId = some exec) (htrial : exec.trial = true)
    (hnone : s.db.candidates .shared = []) : UnsharedTrialFails ctx req s exec := by
  rcases hp : precheck ctx req s with f | exec'
  · -- refused before the lock
    have hrun : (start ctx req).run.run s = (.error f, s) := by
      rw [run_start_broadcast ctx req hb, hp]
    refine ⟨⟨f, by rw [hrun]⟩, by rw [hrun], fun sib => ?_, fun he => by rw [hp] at he; cases he⟩
    exact start_siblings hb fun e he => by rw [hp] at he; cases he
  · obtain ⟨hexec', -⟩ := precheck_ok hp
    rw [hexec] at hexec'
    cases hexec'
    by_cases ha : (acquireRestart s exec).1 = true
    · -- the round runs on the site with the lock taken, which differs only in its locks
      obtain ⟨locks, hlocks⟩ := Database.tryAcquire_eq_with_locks s.db (restartKey exec.id)
        (toString exec.id) s.ctl.config.dispatch.lockTtlSecs s.now
      have hacqdb : (acquireRestart s exec).2 = { s.db with locks } := hlocks
      obtain ⟨f, hf, hfailed, hrouter⟩ :=
        primaryRound_trial_unshared htrial ctx req (s := { s with db := { s.db with locks } }) hnone
      have hrun : (start ctx req).run.run s =
          ((primaryRound ctx exec req { s with db := { s.db with locks } }).1,
            { (primaryRound ctx exec req { s with db := { s.db with locks } }).2 with
              db := releaseRestart
                (primaryRound ctx exec req { s with db := { s.db with locks } }).2.db exec }) := by
        rw [run_start_broadcast ctx req hb, hp]
        simp only [ha, if_true, hacqdb]
      refine ⟨⟨f, by rw [hrun, hf]⟩, by rw [hrun]; exact hrouter, fun sib => ?_, fun _ _ => ?_⟩
      · refine start_siblings hb fun e he _ => ?_
        rw [hp] at he
        cases he
        rw [hacqdb]
        refine primaryRound_siblings_of_unselected ctx exec req { s with db := { s.db with locks } }
          (fun targets h => ?_) sib
        obtain ⟨rule, hrule⟩ := selectNodes_trial_unshared ctx htrial req.nodeIds
          (s := { s with db := { s.db with locks } }) hnone
        rw [hrule] at h
        cases h
      · have hrow₀ : s.db.row? exec.id = some exec.toExecutionRow := by
          rw [Database.execution?_id hexec]
          exact Database.execution?_row hexec
        rcases hpr : primaryRound ctx exec req { s with db := { s.db with locks } } with ⟨r, s'⟩
        rw [hpr] at hf
        dsimp only at hf
        subst hf
        obtain ⟨r₁, hrow₁, -, hstatus⟩ := primaryRound_error_row hpr hrow₀
        refine ⟨r₁, ?_, hstatus.trans hfailed⟩
        rw [hrun, hpr]
        simpa [releaseRestart] using hrow₁
    · -- the lock is held elsewhere: the start is in flight and sends nothing
      have hfail : (acquireRestart s exec).1 = false := by simpa using ha
      have hrun : (start ctx req).run.run s =
          (.error (.inFlight exec.id), { s with db := (acquireRestart s exec).2 }) := by
        rw [run_start_broadcast ctx req hb, hp]
        simp only [hfail, Bool.false_eq_true, if_false]
      refine ⟨⟨_, by rw [hrun]⟩, by rw [hrun], fun sib => ?_, fun _ hae => absurd hae ha⟩
      refine start_siblings hb fun e he hae => ?_
      rw [hp] at he
      cases he
      exact absurd hae ha

/-- Trial executions stay on the shared pool and within the trial caps: a broadcast start of one
sends run commands only to enabled shared nodes, at most `max maxNodes 1`, each a test task within
the caps whichever instance writes it; without an enabled shared node it sends nothing and leaves
the execution `FAILED`. -/
theorem trial_starts_stay_within_caps (ctx : RequestContext) (req : StartRequest) (s : Site)
    (exec : Execution) (hb : req.broadcast = true)
    (hexec : s.db.execution? req.executionId = some exec) (htrial : exec.trial = true) :
    TrialCapped ctx req s exec ∧
      (s.db.candidates .shared = [] → UnsharedTrialFails ctx req s exec) :=
  ⟨start_trialCapped ctx req s hb hexec htrial,
    fun hnone => start_unsharedTrialFails ctx req s hb hexec htrial hnone⟩

def trialRow : ExecutionRow := { pendingRow with trial := true }

/-- An instance with the trial execution and one enabled shared node. -/
def trialSite : Site :=
  { db := { executions := [trialRow], nodes := [⟨5, none, "shared-5", "127.0.0.1", true, 0⟩] },
    ctl := { config := {}, router := { timeoutMs := 0, tailChars := 0 } }, now := 0,
    siblings := .unreachable }

theorem sharedTrial_stays_within_caps :
    trialSite.db.execution? 1 = some { trialRow with nodeIds := [] } ∧
      TrialCapped .system { executionId := 1 } trialSite { trialRow with nodeIds := [] } ∧
      (trialSite.db.candidates .shared = [] →
        UnsharedTrialFails .system { executionId := 1 } trialSite { trialRow with nodeIds := [] }) :=
  have hexec : trialSite.db.execution? 1 = some { trialRow with nodeIds := [] } := by cbv
  ⟨hexec, trial_starts_stay_within_caps .system { executionId := 1 } trialSite
    { trialRow with nodeIds := [] } rfl hexec rfl⟩

end Orchestrator

end LoadDispatch
