import LoadDispatch.Proofs.Rounds

/-!
What a round leaves in the database: a failed round records its failure, and a successful one marks
the execution `SCHEDULING`, clears its run state, links the nodes that accepted and records one
outcome per target. Rounds touch neither the locks nor the settings.
-/
namespace LoadDispatch

namespace Database

theorem row?_id {db : Database} {id : Int} {r : ExecutionRow} (h : db.row? id = some r) :
    r.id = id := by
  simpa using List.find?_some h

/-- A live execution is its row with its nodes. -/
theorem execution?_row {db : Database} {id : Int} {e : Execution} (h : db.execution? id = some e) :
    db.row? id = some e.toExecutionRow := by
  unfold execution? at h
  split at h
  · split at h
    · cases h
      rename_i r hr _
      exact hr
    · cases h
  · cases h

theorem execution?_id {db : Database} {id : Int} {e : Execution} (h : db.execution? id = some e) :
    e.id = id :=
  row?_id (execution?_row h)

theorem row?_modifyRow (db : Database) (id : Int) (f : ExecutionRow → ExecutionRow)
    (hf : ∀ r, (f r).id = r.id) : (db.modifyRow id f).row? id = (db.row? id).map f := by
  unfold row? modifyRow
  have hpred : ((fun r : ExecutionRow => r.id == id) ∘ fun r => if r.id == id then f r else r) =
      fun r => r.id == id := by
    funext r
    by_cases hr : r.id = id <;> simp [hr, hf]
  rw [List.find?_map, hpred]
  cases h : db.executions.find? (·.id == id) with
  | none => rfl
  | some r =>
    have hr : r.id = id := row?_id h
    simp [hr]

theorem row?_setStatus (db : Database) (id : Int) (st : ExecutionStatus) :
    (db.setStatus id st).row? id = (db.row? id).map fun r => { r with status := st } :=
  row?_modifyRow db id _ fun _ => rfl

theorem row?_recordSchedule (db : Database) (id : Int) (st : ExecutionStatus)
    (outcomes : List NodeOutcome) (message : Option String) (now : Int) :
    (db.recordSchedule id st outcomes message now).row? id = (db.row? id).map fun r =>
      { r with status := st, scheduleResult := outcomes, scheduleCount := r.scheduleCount + 1,
               scheduleTime := some now, failureMessage := message.or r.failureMessage,
               startTime := if st == .running && r.startTime.isNone then some now
                 else r.startTime } :=
  row?_modifyRow db id _ fun _ => rfl

@[simp] theorem row?_clearRunState (db : Database) (id id' : Int) :
    (db.clearRunState id').row? id = db.row? id := rfl

@[simp] theorem row?_addNodes (db : Database) (id id' : Int) (nodes : List Int) :
    (db.addNodes id' nodes).row? id = db.row? id := rfl

@[simp] theorem locks_modifyRow (db : Database) (id : Int) (f : ExecutionRow → ExecutionRow) :
    (db.modifyRow id f).locks = db.locks := rfl

@[simp] theorem locks_setStatus (db : Database) (id : Int) (st : ExecutionStatus) :
    (db.setStatus id st).locks = db.locks := rfl

@[simp] theorem locks_recordSchedule (db : Database) (id : Int) (st : ExecutionStatus)
    (outcomes : List NodeOutcome) (message : Option String) (now : Int) :
    (db.recordSchedule id st outcomes message now).locks = db.locks := rfl

@[simp] theorem locks_clearRunState (db : Database) (id : Int) :
    (db.clearRunState id).locks = db.locks := rfl

@[simp] theorem locks_addNodes (db : Database) (id : Int) (nodes : List Int) :
    (db.addNodes id nodes).locks = db.locks := rfl

@[simp] theorem row?_release (db : Database) (key token : String) (id : Int) :
    (db.release key token).row? id = db.row? id := rfl

@[simp] theorem nodeIds_release (db : Database) (key token : String) (id : Int) :
    (db.release key token).nodeIds id = db.nodeIds id := rfl

@[simp] theorem nodeIds_recordSchedule (db : Database) (id id' : Int) (st : ExecutionStatus)
    (outcomes : List NodeOutcome) (message : Option String) (now : Int) :
    (db.recordSchedule id' st outcomes message now).nodeIds id = db.nodeIds id := rfl

/-- Linking distinct nodes none of which is linked yet appends one link per node, in order. -/
theorem addLinks_fresh (id : Int) :
    ∀ {nodes : List Int} {links : List (Int × Int)}, nodes.Nodup → (∀ n ∈ nodes, (id, n) ∉ links) →
      nodes.foldl (fun ls n => if ls.contains (id, n) then ls else ls ++ [(id, n)]) links =
        links ++ nodes.map fun n => (id, n)
  | [], _, _, _ => by simp
  | n :: rest, links, hnd, hfresh => by
    rw [List.nodup_cons] at hnd
    have hn : links.contains (id, n) = false := by
      simpa using hfresh n (List.mem_cons_self ..)
    have hrest : ∀ m ∈ rest, (id, m) ∉ links ++ [(id, n)] := by
      intro m hm hmem
      rcases List.mem_append.mp hmem with h | h
      · exact hfresh m (List.mem_cons_of_mem _ hm) h
      · have hmn : m = n := by simpa using h
        exact hnd.1 (hmn ▸ hm)
    rw [List.foldl_cons, hn, if_neg Bool.false_ne_true, addLinks_fresh id hnd.2 hrest]
    simp

theorem nodeIds_addNodes_clearRunState (db : Database) (id : Int) {nodes : List Int}
    (hnd : nodes.Nodup) : (((db.clearRunState id).addNodes id nodes).nodeIds id).Perm nodes := by
  have hfresh : ∀ n ∈ nodes, (id, n) ∉ db.links.filter (·.1 != id) := by
    intro n _ hmem
    simp at hmem
  unfold nodeIds addNodes clearRunState
  simp only
  rw [addLinks_fresh id hnd hfresh]
  have hlinks : ((db.links.filter (·.1 != id) ++ nodes.map fun n => (id, n)).filter
      (·.1 == id)).map (·.2) = nodes := by
    rw [List.filter_append]
    have hnone : (db.links.filter (·.1 != id)).filter (·.1 == id) = [] := by
      rw [List.filter_filter]
      exact List.filter_eq_nil_iff.mpr fun l _ => by simp
    have hall : (nodes.map fun n => (id, n)).filter (·.1 == id) = nodes.map fun n => (id, n) :=
      List.filter_eq_self.mpr fun l hl => by
        obtain ⟨n, _, rfl⟩ := List.mem_map.mp hl
        simp
    rw [hnone, hall]
    simp [List.map_map, Function.comp_def]
  rw [hlinks]
  exact sortBy_perm _ nodes

end Database

namespace Orchestrator

/-- A round that fails records the failure, before or after it marked the execution
`SCHEDULING` and cleared its run state. -/
theorem primaryRound_error {ctx : RequestContext} {exec : Execution} {req : StartRequest}
    {s s' : Site} {f : SchedulingFailure} (h : primaryRound ctx exec req s = (.error f, s')) :
    s'.db = s.db.recordSchedule exec.id f.resultingStatus f.outcomes (some f.message) s.now ∨
      s'.db = ((s.db.setStatus exec.id .scheduling).clearRunState exec.id).recordSchedule exec.id
        f.resultingStatus f.outcomes (some f.message) s.now := by
  unfold primaryRound at h
  split at h
  · cases h
    exact .inl rfl
  · split at h
    · cases h
      exact .inl rfl
    · split at h
      · rename_i s₁ hsel
        obtain ⟨c, rfl⟩ := by simpa [hsel] using (selectNodes_run ctx exec req.nodeIds s).1
        cases h
        exact .inl rfl
      · rename_i s₁ hsel
        obtain ⟨c, rfl⟩ := by simpa [hsel] using (selectNodes_run ctx exec req.nodeIds s).1
        split at h
        · cases h
          exact .inr rfl
        · dsimp only at h
          split at h
          · cases h
            exact .inr rfl
          · cases h

/-- A round that succeeds has selected its targets and answers one outcome per target, and records
the outcomes after marking the execution `SCHEDULING`, clearing its run state and linking the
nodes that accepted. -/
theorem primaryRound_ok_selection {ctx : RequestContext} {exec : Execution} {req : StartRequest}
    {s s' : Site} {outcomes : List NodeOutcome} (h : primaryRound ctx exec req s = (.ok outcomes, s')) :
    ∃ targets s₁, (selectNodes ctx exec req.nodeIds).run.run s = (.ok targets, s₁) ∧
      (s.db.NodeIdsUnique → (outcomes.map (·.nodeId)).Perm (targets.map some)) ∧
      s'.db = (((s.db.setStatus exec.id .scheduling).clearRunState exec.id).addNodes exec.id
        (NodeOutcome.succeeded outcomes)).recordSchedule exec.id (judgeDispatch exec.status outcomes).1
          outcomes (judgeDispatch exec.status outcomes).2 s.now := by
  unfold primaryRound at h
  split at h
  · cases h
  · split at h
    · cases h
    · split at h
      · cases h
      · rename_i script _ targets s₁ hsel
        have hselected := (selectNodes_run ctx exec req.nodeIds s).2 targets (by simp [hsel])
        obtain ⟨c, rfl⟩ := by simpa [hsel] using (selectNodes_run ctx exec req.nodeIds s).1
        split at h
        · cases h
        · rename_i cmds hc
          dsimp only at h
          split at h
          · cases h
          · simp only [Prod.mk.injEq, Except.ok.injEq] at h
            obtain ⟨rfl, rfl⟩ := h
            refine ⟨targets, _, hsel, fun hdb => ?_, rfl⟩
            -- the local outcomes and the relayed nodes are the targets; the relay answers once
            -- for each relayed node
            obtain ⟨hnodes, hunrouted⟩ := Router.dispatchAll_nodes s.ctl.router cmds
            rw [(shardCommands_ok hc).1] at hunrouted
            have hcmds : cmds.map (fun p => some p.1) = targets.map some := by
              rw [← (shardCommands_ok hc).1, List.map_map]
              rfl
            rw [hcmds] at hnodes
            have hrelay := relay_perm (fun peer ts => s.siblings.start peer
                (.relayed exec.id (.over targets) ts)) s.ctl.config.cluster.peers
              ((s.db.setStatus exec.id .scheduling).clearRunState exec.id).ownership
              (hostPrefix s.ctl.config.controller.instanceId) _
              (hunrouted.nodup (hselected.nodup hdb))
            simp only [run_relayNodes, List.map_append]
            refine List.Perm.trans (List.Perm.append_left _ ?_) hnodes
            split
            · rename_i hempty
              simp [List.isEmpty_iff.mp hempty]
            · exact hrelay

/-- A round that succeeds answers one outcome per selected target, and records them after
marking the execution `SCHEDULING`, clearing its run state and linking the nodes that accepted. -/
theorem primaryRound_ok {ctx : RequestContext} {exec : Execution} {req : StartRequest}
    {s s' : Site} {outcomes : List NodeOutcome} (h : primaryRound ctx exec req s = (.ok outcomes, s')) :
    ∃ targets, Selected s.db targets ∧
      (s.db.NodeIdsUnique → (outcomes.map (·.nodeId)).Perm (targets.map some)) ∧
      s'.db = (((s.db.setStatus exec.id .scheduling).clearRunState exec.id).addNodes exec.id
        (NodeOutcome.succeeded outcomes)).recordSchedule exec.id (judgeDispatch exec.status outcomes).1
          outcomes (judgeDispatch exec.status outcomes).2 s.now := by
  obtain ⟨targets, s₁, hsel, hperm, hdb⟩ := primaryRound_ok_selection h
  exact ⟨targets, (selectNodes_run ctx exec req.nodeIds s).2 targets (by rw [hsel]), hperm, hdb⟩

/-- Rounds leave the locks as they were. -/
theorem primaryRound_locks (ctx : RequestContext) (exec : Execution) (req : StartRequest)
    (s : Site) : (primaryRound ctx exec req s).2.db.locks = s.db.locks := by
  rcases h : primaryRound ctx exec req s with ⟨_ | outcomes, s'⟩
  · rcases primaryRound_error h with hdb | hdb <;> simp [hdb]
  · obtain ⟨_, _, _, hdb⟩ := primaryRound_ok h
    simp [hdb]

/-- Rounds leave the instance's settings as they were. -/
theorem primaryRound_config (ctx : RequestContext) (exec : Execution) (req : StartRequest)
    (s : Site) : (primaryRound ctx exec req s).2.ctl.config = s.ctl.config := by
  unfold primaryRound
  split
  · rfl
  · split
    · rfl
    · split
      · rename_i s₁ hsel
        exact (by simpa [hsel] using (selectNodes_run ctx exec req.nodeIds s).1 : CursorMoved s s₁).config
      · rename_i s₁ hsel
        have hm : CursorMoved s s₁ := by simpa [hsel] using (selectNodes_run ctx exec req.nodeIds s).1
        dsimp only
        split
        · exact hm.config
        · split
          · exact hm.config
          · exact hm.config

end Orchestrator

end LoadDispatch
