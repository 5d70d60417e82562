import LoadDispatch.Proofs.Rounds

/-!
Conservation of load across a dispatch round. A sibling writes its commands under the plan it was
sent, so a node gets the same share whichever instance writes its command, and over distinct targets
the shares add up to the whole load.
-/
namespace LoadDispatch.Orchestrator

/-- A command for a node carries the node's share under `plan`: a run command of the execution
whose script is the execution's script with the share written in. -/
def CarriesShare (exec : Execution) (plan : ShardPlan) (cmd : Int × AgentCommand) : Prop :=
  cmd.2.action = .run ∧ cmd.2.executionId = exec.id ∧
    ∃ script, prepareScript exec = .ok script ∧
      applyThreads script (plan.share exec.shardBase cmd.1) = .ok cmd.2.script

/-- Between two routers the agents received, after what they had, commands to nodes of `targets`
in their order, each carrying its node's share under `plan`. -/
def SentShares (exec : Execution) (plan : ShardPlan) (targets : List Int) (r r' : Router) : Prop :=
  ∃ sent, r'.received = r.received ++ sent ∧ (sent.map (·.1)).Sublist targets ∧
    ∀ p ∈ sent, CarriesShare exec plan p

theorem SentShares.refl (exec : Execution) (plan : ShardPlan) (targets : List Int) (r : Router) :
    SentShares exec plan targets r r :=
  ⟨[], by simp, List.nil_sublist _, by simp⟩

theorem dispatchAll_sentShares {exec : Execution} {script : String} {targets : List Int}
    {plan : ShardPlan} {cmds : List (Int × AgentCommand)} (hp : prepareScript exec = .ok script)
    (hc : shardCommands exec script targets plan = .ok cmds) (r : Router) :
    SentShares exec plan targets r (r.dispatchAll cmds).2.2 := by
  obtain ⟨sent, hrec, hsub⟩ := r.dispatchAll_received cmds
  obtain ⟨hnodes, hcmds⟩ := shardCommands_ok hc
  refine ⟨sent, hrec, ?_, ?_⟩
  · rw [← hnodes]
    exact hsub.map _
  · intro p hmem
    obtain ⟨hrun, hid, hscript⟩ := hcmds p (hsub.subset hmem)
    exact ⟨hrun, hid, script, hp, hscript⟩

theorem startSecondary_sentShares (exec : Execution) (req : StartRequest) (s : Site) :
    SentShares exec (req.shardPlan.getD (.over req.nodeIds)) req.nodeIds s.ctl.router
      ((startSecondary exec req).run.run s).2.ctl.router := by
  rw [run_startSecondary]
  unfold secondaryRound
  rcases hp : prepareScript exec with f | script
  · exact SentShares.refl _ _ _ _
  · simp only
    split
    · exact SentShares.refl _ _ _ _
    · rcases hc : shardCommands exec script req.nodeIds
        (req.shardPlan.getD (ShardPlan.over req.nodeIds)) with f | cmds
      · exact SentShares.refl _ _ _ _
      · simp only
        have h := dispatchAll_sentShares hp hc s.ctl.router
        split <;> exact h

theorem relayed_sentShares (exec : Execution) (plan : ShardPlan) (targets : List Int) (s : Site) :
    SentShares exec plan targets s.ctl.router
      ((startSecondary exec (.relayed exec.id plan targets)).run.run s).2.ctl.router :=
  startSecondary_sentShares exec _ s

theorem startPrimary_sentShares (ctx : RequestContext) (exec : Execution) (req : StartRequest)
    (s : Site) :
    SentShares exec (.over (roundTargets ctx exec req s)) (roundTargets ctx exec req s)
      s.ctl.router ((startPrimary ctx exec req).run.run s).2.ctl.router := by
  rw [run_startPrimary]
  rcases primaryRound_router ctx exec req s with h | ⟨script, cmds, hp, hc, h⟩
  · rw [h]
    exact SentShares.refl _ _ _ _
  · rw [h]
    exact dispatchAll_sentShares hp hc _

theorem startPrimary_siblings (ctx : RequestContext) (exec : Execution) (req : StartRequest)
    (s : Site) (sib : Siblings)
    (hsib : ∀ peer ts, ts.Sublist (roundTargets ctx exec req s) →
      sib.start peer (.relayed exec.id (.over (roundTargets ctx exec req s)) ts) =
        s.siblings.start peer (.relayed exec.id (.over (roundTargets ctx exec req s)) ts)) :
    (startPrimary ctx exec req).run.run { s with siblings := sib } =
      (((startPrimary ctx exec req).run.run s).1,
        { ((startPrimary ctx exec req).run.run s).2 with siblings := sib }) := by
  rw [run_startPrimary, run_startPrimary]
  exact primaryRound_siblings ctx exec req s sib hsib

/-- How the plan over `targets` divides `c`: count by count the first target takes the quotient and
the remainder and every other target the quotient; ramp periods and the duration are kept. -/
def ShareLaw (c : ThreadConfig) (targets : List Int) : Prop :=
  let share := (ShardPlan.over targets).share c
  (∀ t k, (share t).count k = if t = targets.headD 0
      then c.count k / targets.length + c.count k % targets.length
      else c.count k / targets.length) ∧
  (∀ t k, (share t).count k ≤ c.count k) ∧
  (∀ k, (targets.map fun t => (share t).count k).sum = c.count k) ∧
  (∀ t, (share t).ramp.isNone = c.ramp.isNone ∧
    (share t).ramp.map (fun r => (r.rampUpSecs, r.rampDownSecs)) =
      c.ramp.map (fun r => (r.rampUpSecs, r.rampDownSecs)) ∧
    (share t).durationSecs = c.durationSecs) ∧
  (targets.length = 1 → ∀ t ∈ targets, share t = c)

theorem shareLaw_of_round {targets : List Int} (hnd : targets.Nodup) (hne : targets ≠ [])
    (c : ThreadConfig) : ShareLaw c targets := by
  have hlen : 1 ≤ targets.length := List.length_pos_iff.mpr hne
  refine ⟨fun t k => ShardPlan.count_share_over hne c t k, fun t k => ?_,
    fun k => ShardPlan.sum_share_over hnd hne c k, fun t => ?_, fun hone t ht => ?_⟩
  · rw [ShardPlan.share_over, c.count_shard hlen]
    exact shareOf_le _ _ _
  · rw [ShardPlan.share_over]
    exact ⟨c.shard_ramp_isNone _ _, c.shard_rampSecs _ _, c.shard_durationSecs _ _⟩
  · -- a round of one target is that target alone
    obtain ⟨u, rfl⟩ := List.length_eq_one_iff.mp hone
    rw [List.mem_singleton.mp ht]
    exact ShardPlan.share_over_single u c

/-- A round of a broadcast start conserves the load: its distinct selected targets divide the load
by `ShareLaw`, and each target is sent its share whether this instance or a sibling writes its
command. -/
def SharesConserved (ctx : RequestContext) (exec : Execution) (req : StartRequest) (s : Site) :
    Prop :=
  ∃ targets,
    (targets = [] ∨ Selected s.db targets ∧ targets.Nodup ∧ ShareLaw exec.shardBase targets) ∧
    SentShares exec (.over targets) targets s.ctl.router
      ((startPrimary ctx exec req).run.run s).2.ctl.router ∧
    (∀ sib : Siblings, (∀ peer ts, ts.Sublist targets →
        sib.start peer (.relayed exec.id (.over targets) ts) =
          s.siblings.start peer (.relayed exec.id (.over targets) ts)) →
      (startPrimary ctx exec req).run.run { s with siblings := sib } =
        (((startPrimary ctx exec req).run.run s).1,
          { ((startPrimary ctx exec req).run.run s).2 with siblings := sib })) ∧
    (∀ ts, ts.Sublist targets → ∀ s₂ : Site,
      SentShares exec (.over targets) ts s₂.ctl.router
        ((startSecondary exec (.relayed exec.id (.over targets) ts)).run.run s₂).2.ctl.router)

theorem startPrimary_conserves_shares (ctx : RequestContext) (exec : Execution)
    (req : StartRequest) (s : Site) (hdb : s.db.NodeIdsUnique) :
    SharesConserved ctx exec req s := by
  refine ⟨roundTargets ctx exec req s, ?_, startPrimary_sentShares ctx exec req s,
    startPrimary_siblings ctx exec req s, fun ts _ s₂ => relayed_sentShares exec _ ts s₂⟩
  rcases roundTargets_selected ctx exec req s with h | h
  · exact .inl h
  · have hnd := h.nodup hdb
    exact .inr ⟨h, hnd, shareLaw_of_round hnd h.ne_nil exec.shardBase⟩

/-- Nodes 1 and 2 of tenant 1: node 1 is routed here, node 2 is connected to the sibling at
10.0.0.2, which accepts every relayed start. -/
def splitSite : Site :=
  { db := { nodes := [⟨1, some 1, "n1", "10.0.0.1", true, 1750000000000⟩,
                      ⟨2, some 1, "n2", "10.0.0.2", true, 1750000000000⟩] },
    ctl := { config := { controller := { instanceId := "10.0.0.1:8080" },
                         cluster := { peers := [⟨"10.0.0.2:8080", "10.0.0.2", 8080⟩] } },
             router := { routes := [{ node := 1, answers := [.reply ⟨true, 1, "accepted", [], 0⟩] }],
                         timeoutMs := 0, tailChars := 0 } },
    now := 1750000000000,
    siblings := ⟨fun _ req => some (req.nodeIds.map fun n => NodeOutcome.accepted n "accepted"),
      fun _ _ => none⟩ }

def splitExecution : Execution :=
  { id := 1, tenantId := 1, scriptType := .performance, scriptSourceId := none, status := .pending,
    threads := { threadCount := 5, iterationCount := 11 }, originalThreads := none, trial := false,
    debug := false, nodeCount := 2, nodePool := none, strategy := none, script := "{}",
    indicator := none, nodeIds := [] }

/-- The round targets nodes 1 and 2: node 1 is routed here and is the only node sent a command
here, node 2 is not and goes to the sibling; and the shares are conserved. -/
theorem splitSite_conserves_shares :
    splitSite.db.NodeIdsUnique ∧
      roundTargets default splitExecution { executionId := 1 } splitSite = [1, 2] ∧
      splitSite.ctl.router.isLocal 2 = false ∧
      ((startPrimary default splitExecution { executionId := 1 }).run.run
        splitSite).2.ctl.router.received.map (·.1) = [1] ∧
      SharesConserved default splitExecution { executionId := 1 } splitSite := by
  have hdb : splitSite.db.NodeIdsUnique := by unfold Database.NodeIdsUnique; decide
  exact ⟨hdb, by decide +kernel, by decide, by decide +kernel,
    startPrimary_conserves_shares default splitExecution { executionId := 1 } splitSite hdb⟩

end LoadDispatch.Orchestrator
