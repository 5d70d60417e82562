import LoadDispatch.Proofs.StartRecord

/-!
What a broadcast stop leaves behind: a stop command to each target, the nodes that stopped unlinked,
and the status settled, `STOPPED` only when every target stopped and `RUNNING` otherwise, a finished
execution keeping its own.
-/
namespace LoadDispatch

theorem NodeOutcome.mem_succeeded (os : List NodeOutcome) (n : Int) :
    n ∈ NodeOutcome.succeeded os ↔ ∃ o ∈ os, o.nodeId = some n ∧ o.success = true := by
  unfold NodeOutcome.succeeded
  rw [List.mem_filterMap]
  constructor
  · rintro ⟨o, ho, h⟩
    split at h
    · exact ⟨o, ho, h, ‹_›⟩
    · cases h
  · rintro ⟨o, ho, hid, hs⟩
    exact ⟨o, ho, by simp [hs, hid]⟩

namespace Database

theorem mem_links_removeNodes (db : Database) (id : Int) (nodes : List Int) (l : Int × Int) :
    l ∈ (db.removeNodes id nodes).links ↔ l ∈ db.links ∧ ¬(l.1 = id ∧ l.2 ∈ nodes) := by
  simp [removeNodes, imp_iff_not_or]

@[simp] theorem links_settleStop (db : Database) (id : Int) (allStopped : Bool) (now : Int) :
    (db.settleStop id allStopped now).2.links = db.links := rfl

@[simp] theorem row?_removeNodes (db : Database) (id id' : Int) (nodes : List Int) :
    (db.removeNodes id' nodes).row? id = db.row? id := rfl

theorem row?_settleStop (db : Database) (id : Int) (allStopped : Bool) (now : Int) :
    (db.settleStop id allStopped now).2.row? id = (db.row? id).map fun r =>
      if r.status.isTerminal then r
      else if allStopped then { r with status := .stopped, endTime := some now }
      else { r with status := .running } :=
  row?_modifyRow _ _ _ fun r => by split_ifs <;> rfl

end Database

namespace Orchestrator

/-- The nodes a stop is sent to: the requested ones, or else the execution's own. -/
def stopTargets (exec : Execution) (req : StopRequest) : List Int :=
  if req.nodeIds.isEmpty then exec.nodeIds else req.nodeIds

/-- A broadcast stop round over its targets: the outcomes of the stop commands sent locally,
then those of the nodes relayed to the siblings, with the router the commands leave. -/
def stopRound (exec : Execution) (targets : List Int) (s : Site) : List NodeOutcome × Router :=
  let d := s.ctl.router.dispatchAll (targets.map fun n => (n, AgentCommand.stopOf exec.id))
  let post := fun peer ts => s.siblings.stop peer { executionId := exec.id, nodeIds := ts, broadcast := false }
  (d.1 ++ (if d.2.1.isEmpty then [] else relay post s.ctl.config.cluster.peers s.db.ownership
      (hostPrefix s.ctl.config.controller.instanceId) d.2.1), d.2.2)

theorem run_stop_primary (ctx : RequestContext) (req : StopRequest) (s : Site) (exec : Execution)
    (hb : req.broadcast = true) (hexec : s.db.execution? req.executionId = some exec)
    (hmay : ctx.mayOperate exec.tenantId = true)
    (hfree : s.db.lockHolder (restartKey exec.id) s.now = none) :
    (stop ctx req).run.run s =
      (.ok (stopRound exec (stopTargets exec req) s).1,
        { s with db := ((s.db.removeNodes exec.id
                  (NodeOutcome.succeeded (stopRound exec (stopTargets exec req) s).1)).settleStop
                  exec.id ((stopRound exec (stopTargets exec req) s).1.all (·.success)) s.now).2,
                 ctl := { s.ctl with router := (stopRound exec (stopTargets exec req) s).2 } }) := by
  unfold stop
  simp only [run_bind, run_load, hexec, hmay, if_true, hb, Bool.not_true, Bool.false_and,
    Bool.false_eq_true, if_false, run_get, hfree, Option.isSome_none]
  simp only [run_site, run_dispatchLocal, run_relayNodes, run_modifyDb, run_updateDb, run_pure]
  rfl


/-- A stop round over distinct targets answers once for each of them. -/
theorem stopRound_perm (exec : Execution) {targets : List Int} (s : Site) (hnd : targets.Nodup) :
    ((stopRound exec targets s).1.map (·.nodeId)).Perm (targets.map some) := by
  obtain ⟨hnodes, hunrouted⟩ := Router.dispatchAll_nodes s.ctl.router
    (targets.map fun n => (n, AgentCommand.stopOf exec.id))
  have hcmds : (targets.map fun n => (n, AgentCommand.stopOf exec.id)).map (fun c => some c.1) =
      targets.map some := by simp [List.map_map, Function.comp_def]
  have hfst : (targets.map fun n => (n, AgentCommand.stopOf exec.id)).map (·.1) = targets := by
    simp [List.map_map, Function.comp_def]
  rw [hcmds] at hnodes
  rw [hfst] at hunrouted
  unfold stopRound
  simp only [List.map_append]
  refine List.Perm.trans (List.Perm.append_left _ ?_) hnodes
  split
  · simp [List.isEmpty_iff.mp ‹_›]
  · exact relay_perm _ _ _ _ _ (hunrouted.nodup hnd)


/-- What a broadcast stop did: it answered once per target, unlinked exactly the targets that
stopped, and left a finished execution's status, else `STOPPED` with its end time when every target
stopped and `RUNNING` when one did not. -/
def StopSettled (ctx : RequestContext) (req : StopRequest) (s : Site) (exec : Execution) : Prop :=
  ∃ outcomes s', (stop ctx req).run.run s = (.ok outcomes, s') ∧
    (outcomes.map (·.nodeId)).Perm ((stopTargets exec req).map some) ∧
    (∀ l, l ∈ s'.db.links ↔ l ∈ s.db.links ∧
      ¬(l.1 = exec.id ∧ ∃ o ∈ outcomes, o.nodeId = some l.2 ∧ o.success = true)) ∧
    ∃ r, s'.db.row? exec.id = some r ∧
      r = { exec.toExecutionRow with status := r.status, endTime := r.endTime } ∧
      (exec.status.isTerminal = true → r.status = exec.status ∧ r.endTime = exec.endTime) ∧
      (exec.status.isTerminal = false → (∀ o ∈ outcomes, o.success = true) →
        r.status = .stopped ∧ r.endTime = some s.now) ∧
      (exec.status.isTerminal = false → (∃ o ∈ outcomes, o.success = false) →
        r.status = .running ∧ r.endTime = exec.endTime)

/-- Every broadcast stop of a live execution the caller may operate, over distinct targets and
with no start holding the execution's lock, settles as `StopSettled` says, whatever the agents
and the siblings answer. -/
theorem stop_settles_conservatively (ctx : RequestContext) (req : StopRequest) (s : Site)
    (exec : Execution) (hb : req.broadcast = true)
    (hexec : s.db.execution? req.executionId = some exec)
    (hmay : ctx.mayOperate exec.tenantId = true)
    (hfree : s.db.lockHolder (restartKey exec.id) s.now = none)
    (hnd : (stopTargets exec req).Nodup) : StopSettled ctx req s exec := by
  have hrow : s.db.row? exec.id = some exec.toExecutionRow := by
    rw [Database.execution?_id hexec]
    exact Database.execution?_row hexec
  refine ⟨_, _, run_stop_primary ctx req s exec hb hexec hmay hfree, stopRound_perm exec s hnd,
    fun l => ?_, ?_⟩
  · simp only [Database.links_settleStop, Database.mem_links_removeNodes, NodeOutcome.mem_succeeded]
  · rw [Database.row?_settleStop, Database.row?_removeNodes, hrow]
    set outcomes := (stopRound exec (stopTargets exec req) s).1
    -- the status flip has three cases: finished, every target stopped, some target did not
    by_cases hterm : exec.status.isTerminal = true
    · refine ⟨_, rfl, ?_, ?_, ?_, ?_⟩ <;> simp [hterm]
    · have hterm' : exec.status.isTerminal = false := by simpa using hterm
      by_cases hall : outcomes.all (·.success) = true
      · have hall' : ∀ o ∈ outcomes, o.success = true := by simpa using hall
        refine ⟨_, rfl, ?_, ?_, ?_, ?_⟩
        · simp [hterm', hall]
        · simp [hterm']
        · simp [hterm', hall]
        · rintro - ⟨o, ho, hfail⟩
          simp [hall' o ho] at hfail
      · refine ⟨_, rfl, ?_, ?_, ?_, ?_⟩
        · simp [hterm', hall]
        · simp [hterm']
        · intro _ hall'
          exact absurd (by simpa using hall') hall
        · simp [hterm', hall]

def twoNodeStopSite : Site :=
  { db := { executions := [{ pendingRow with status := .running }], links := [(1, 5), (1, 6)] },
    ctl := { config := {}, router := { timeoutMs := 0, tailChars := 0 } }, now := 1750000000000,
    siblings := .unreachable }

/-- The system's stop of that execution settles. -/
theorem twoNodeStop_settles :
    StopSettled .system { executionId := 1 } twoNodeStopSite
      { toExecutionRow := { pendingRow with status := .running }, nodeIds := [5, 6] } :=
  stop_settles_conservatively _ _ _ _ rfl (by cbv) rfl rfl (by decide)

end Orchestrator

end LoadDispatch
