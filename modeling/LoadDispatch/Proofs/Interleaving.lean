import LoadDispatch.Proofs.Quota
import LoadDispatch.Proofs.Isolation

/-!
Requests served side by side over one database. A broadcast start waits on its agents between
writing its commands and recording their outcomes, so it is two steps here, opened and closed, and
every other request is one. Its quota check counts the executions `RUNNING` when it opens, so two
starts of one tenant in flight together each pass it; with no such overlap each tenant stays within
its quota along every interleaving (`running_executions_within_quota_interleaved`).
-/
namespace LoadDispatch

namespace Database

/-- The id and owner of every execution row, in table order. -/
def owners (db : Database) : List (Int × Int) := db.executions.map fun r => (r.id, r.tenantId)

theorem countRunning_eq_countP (db : Database) (t x : Int) :
    db.countRunning t x = (db.executions.filter (·.id != x)).countP (runsFor t) := by
  unfold countRunning
  rw [List.countP_filter, List.countP_eq_length_filter]
  congr 1
  apply List.filter_congr
  intro r _
  simp only [runsFor, Bool.and_assoc, Bool.and_comm (r.id != x)]

theorem runningCount_eq_add (db : Database) (t x : Int) :
    db.runningCount t =
      db.countRunning t x + (db.executions.filter (·.id == x)).countP (runsFor t) := by
  rw [runningCount, List.countP_eq_countP_filter_add _ _ (·.id == x), countRunning_eq_countP,
    Nat.add_comm]
  rfl

theorem countRunning_le_runningCount (db : Database) (t x : Int) :
    db.countRunning t x ≤ db.runningCount t := by
  rw [runningCount_eq_add db t x]
  exact Nat.le_add_right _ _

theorem countP_filter_id_le_one {db : Database} (hnd : (db.executions.map (·.id)).Nodup) (x : Int)
    (p : ExecutionRow → Bool) : (db.executions.filter (·.id == x)).countP p ≤ 1 := by
  have hcount := List.nodup_iff_count_le_one.mp hnd x
  rw [List.count_eq_countP, List.countP_map, List.countP_eq_length_filter] at hcount
  exact List.countP_le_length.trans hcount

theorem tenantId_of_owners {db : Database} (hnd : (db.executions.map (·.id)).Nodup) {x tx : Int}
    (hx : (x, tx) ∈ db.owners) {r : ExecutionRow} (hr : r ∈ db.executions) (hid : r.id = x) :
    r.tenantId = tx := by
  obtain ⟨r₀, hr₀, hpair⟩ := List.mem_map.mp hx
  obtain ⟨hid₀, hten₀⟩ := Prod.mk.inj hpair
  rw [List.inj_on_of_nodup_map hnd hr hr₀ (hid.trans hid₀.symm), hten₀]

theorem eq_of_owners {db : Database} (hnd : (db.executions.map (·.id)).Nodup) {x t t' : Int}
    (h : (x, t) ∈ db.owners) (h' : (x, t') ∈ db.owners) : t = t' := by
  obtain ⟨r, hr, hpair⟩ := List.mem_map.mp h'
  obtain ⟨hid, hten⟩ := Prod.mk.inj hpair
  rw [← hten]
  exact (tenantId_of_owners hnd h hr hid).symm

theorem mem_ids_of_owners {db : Database} {x t : Int} (h : (x, t) ∈ db.owners) :
    x ∈ db.executions.map (·.id) := by
  obtain ⟨r, hr, hpair⟩ := List.mem_map.mp h
  exact List.mem_map.mpr ⟨r, hr, (Prod.mk.inj hpair).1⟩

theorem mem_owners_of_execution? {db : Database} {id : Int} {e : Execution}
    (h : db.execution? id = some e) : (e.id, e.tenantId) ∈ db.owners :=
  List.mem_map_of_mem (execution?_some h).1

namespace Confined

variable {x : Int} {db db' : Database}

theorem mem_links_of_ne (h : Confined x db db') {l : Int × Int} (hl : l ∈ db'.links)
    (hne : l.1 ≠ x) : l ∈ db.links := by
  have hkept : l ∈ db'.links.filter (·.1 != x) :=
    List.mem_filter.mpr ⟨hl, by simpa using hne⟩
  rw [h.links] at hkept
  exact List.mem_of_mem_filter hkept

theorem countRunning_eq (h : Confined x db db') (t : Int) :
    db'.countRunning t x = db.countRunning t x := by
  rw [countRunning_eq_countP, countRunning_eq_countP, h.rows]

/-- After a write confined to `x`, a tenant runs the executions other than `x` it ran before, and
the rows of `x` that now run. -/
theorem runningCount_eq (h : Confined x db db') (t : Int) :
    db'.runningCount t =
      db.countRunning t x + (db'.executions.filter (·.id == x)).countP (runsFor t) := by
  rw [runningCount_eq_add db' t x, h.countRunning_eq]

theorem runningCount_le_succ (h : Confined x db db') (hnd : (db.executions.map (·.id)).Nodup)
    (t : Int) : db'.runningCount t ≤ db.countRunning t x + 1 := by
  rw [h.runningCount_eq]
  have hone := countP_filter_id_le_one (h.ids ▸ hnd) x (runsFor t)
  omega

theorem runningCount_le_of_uncounted (h : Confined x db db') {t : Int}
    (hx : ∀ r ∈ db'.executions, r.id = x → runsFor t r = false) :
    db'.runningCount t ≤ db.countRunning t x := by
  rw [h.runningCount_eq, List.countP_eq_zero.mpr fun r hr => by
    rw [List.mem_filter, beq_iff_eq] at hr
    simp [hx r hr.1 hr.2]]
  exact le_rfl

theorem runningCount_le_of_ne (h : Confined x db db') (hnd : (db.executions.map (·.id)).Nodup)
    {tx t : Int} (hx : (x, tx) ∈ db.owners) (ht : t ≠ tx) :
    db'.runningCount t ≤ db.runningCount t := by
  have hnd' := h.ids ▸ hnd
  have hx' : (x, tx) ∈ db'.owners := by
    unfold Database.owners
    rw [h.owners]
    exact hx
  refine (h.runningCount_le_of_uncounted fun r hr hid => ?_).trans
    (countRunning_le_runningCount db t x)
  have hten := tenantId_of_owners hnd' hx' hr hid
  simp [runsFor, hten, Ne.symm ht]

theorem settled (h : Confined x db db') (hdb : db.Settled) (hx : ∀ n, (x, n) ∉ db'.links) :
    db'.Settled := by
  have hsub : db'.links.Sublist db.links := by
    have hall : db'.links.filter (·.1 != x) = db'.links :=
      List.filter_eq_self.mpr fun l hl => by
        have : l.1 ≠ x := fun he => hx l.2 (he ▸ hl)
        simpa using this
    rw [← hall, h.links]
    exact List.filter_sublist
  refine ⟨ids_nodup_of_owners h.owners hdb.ids_nodup, hdb.links_nodup.sublist hsub,
    fun l hl => h.ids ▸ hdb.linked_stored l (hsub.subset hl), fun r hr hlive n hn => ?_⟩
  have hne : r.id ≠ x := fun he => hx n (he ▸ hn)
  have hkept : r ∈ db'.executions.filter (·.id != x) :=
    List.mem_filter.mpr ⟨hr, by simpa using hne⟩
  rw [h.rows] at hkept
  exact hdb.linked_running r (List.mem_of_mem_filter hkept) hlive n (hsub.subset hn)

end Confined

end Database

namespace Orchestrator

/-- A round up to the dispatch of its commands: the quota checked again, the script written, the
targets selected, the execution marked `SCHEDULING` and cleared, and the commands written. A
failure is recorded as the round records it. -/
def openRound (ctx : RequestContext) (exec : Execution) (req : StartRequest) (s : Site) :
    Except SchedulingFailure (List Int × List (Int × AgentCommand)) × Site :=
  if s.db.countRunning exec.tenantId exec.id ≥ s.ctl.config.maxConcurrentExecutions then
    (.error (.quotaExceeded s.ctl.config.maxConcurrentExecutions),
      recordAt s exec.id (.quotaExceeded s.ctl.config.maxConcurrentExecutions))
  else match prepareScript exec with
  | .error f => (.error f, recordAt s exec.id f)
  | .ok script =>
    match (selectNodes ctx exec req.nodeIds).run.run s with
    | (.error f, s₁) => (.error f, recordAt s₁ exec.id f)
    | (.ok targets, s₁) =>
      let s₂ := { s₁ with db := (s₁.db.setStatus exec.id .scheduling).clearRunState exec.id }
      match shardCommands exec script targets (.over targets) with
      | .error f => (.error f, recordAt s₂ exec.id f)
      | .ok cmds => (.ok (targets, cmds), s₂)

/-- The rest of a round: the commands sent, the unrouted targets relayed, and the outcomes
recorded, or the dispatch failure when every routed command failed in transport. -/
def closeRound (exec : Execution) (targets : List Int) (cmds : List (Int × AgentCommand))
    (s : Site) : Except SchedulingFailure (List NodeOutcome) × Site :=
  let s₃ := { s with ctl := { s.ctl with router := (s.ctl.router.dispatchAll cmds).2.2 } }
  let os := (s.ctl.router.dispatchAll cmds).1
  let unrouted := (s.ctl.router.dispatchAll cmds).2.1
  if unrouted.isEmpty && NodeOutcome.allTransport os then
    (.error (.dispatchFailed os), recordAt s₃ exec.id (.dispatchFailed os))
  else
    let outcomes := os ++ ((relayNodes (fun peer ts =>
      s₃.siblings.start peer (.relayed exec.id (.over targets) ts)) unrouted).run s₃).1
    let linked := s₃.db.addNodes exec.id (NodeOutcome.succeeded outcomes)
    let db := linked.recordSchedule exec.id (judgeDispatch exec.status outcomes).1 outcomes
      (judgeDispatch exec.status outcomes).2 s₃.now
    (.ok outcomes, { s₃ with db })

theorem primaryRound_split (ctx : RequestContext) (exec : Execution) (req : StartRequest)
    (s : Site) : primaryRound ctx exec req s = match openRound ctx exec req s with
      | (.error f, s') => (.error f, s')
      | (.ok (targets, cmds), s') => closeRound exec targets cmds s' := by
  unfold primaryRound openRound
  by_cases hq : s.db.countRunning exec.tenantId exec.id ≥ s.ctl.config.maxConcurrentExecutions
  · simp only [hq, ↓reduceIte]
  · simp only [hq, ↓reduceIte]
    rcases prepareScript exec with f | script
    · rfl
    · dsimp only
      rcases (selectNodes ctx exec req.nodeIds).run.run s with ⟨_ | targets, s₁⟩
      · rfl
      · dsimp only
        rcases shardCommands exec script targets (.over targets) with f | cmds <;> rfl

/-- A broadcast start whose commands are out: the execution as its checks loaded it, the targets
of its round and their commands. -/
structure Flight where
  exec : Execution
  targets : List Int
  cmds : List (Int × AgentCommand)

/-- A start up to the dispatch of its commands, and the start in flight if it got that far; a start
that is refused, turned away or fails before the dispatch is over, and a relayed start is served at
once. -/
def openStart (ctx : RequestContext) (req : StartRequest) (s : Site) : Option Flight × Site :=
  if req.broadcast then
    match precheck ctx req s with
    | .error _ => (none, s)
    | .ok exec =>
      if (acquireRestart s exec).1 then
        match openRound ctx exec req { s with db := (acquireRestart s exec).2 } with
        | (.error _, s') => (none, { s' with db := releaseRestart s'.db exec })
        | (.ok (targets, cmds), s') => (some ⟨exec, targets, cmds⟩, s')
      else (none, { s with db := (acquireRestart s exec).2 })
  else (none, ((start ctx req).run.run s).2)

def closeStart (f : Flight) (s : Site) : Site :=
  let s' := (closeRound f.exec f.targets f.cmds s).2
  { s' with db := releaseRestart s'.db f.exec }

/-- A start served at once is its opening followed by its closing. -/
theorem start_split (ctx : RequestContext) (req : StartRequest) (s : Site) :
    ((start ctx req).run.run s).2 = match openStart ctx req s with
      | (none, s') => s'
      | (some f, s') => closeStart f s' := by
  unfold openStart
  cases hb : req.broadcast with
  | false => rfl
  | true =>
    rw [run_start_broadcast ctx req hb s]
    simp only [if_true]
    rcases precheck ctx req s with f | exec
    · rfl
    · simp only
      by_cases hacq : (acquireRestart s exec).1 = true
      · simp only [hacq, if_true, primaryRound_split]
        rcases openRound ctx exec req { s with db := (acquireRestart s exec).2 } with
          ⟨_ | ⟨targets, cmds⟩, s'⟩ <;> rfl
      · simp only [hacq, Bool.false_eq_true, if_false]

/-! ### What the two steps of a start write -/

theorem openRound_error {ctx : RequestContext} {exec : Execution} {req : StartRequest}
    {s s' : Site} {f : SchedulingFailure} (h : openRound ctx exec req s = (.error f, s')) :
    s'.db = s.db.recordSchedule exec.id f.resultingStatus f.outcomes (some f.message) s.now ∨
      s'.db = ((s.db.setStatus exec.id .scheduling).clearRunState exec.id).recordSchedule exec.id
        f.resultingStatus f.outcomes (some f.message) s.now :=
  primaryRound_error (by rw [primaryRound_split, h])

theorem openRound_ok {ctx : RequestContext} {exec : Execution} {req : StartRequest}
    {s s' : Site} {targets : List Int} {cmds : List (Int × AgentCommand)}
    (h : openRound ctx exec req s = (.ok (targets, cmds), s')) :
    s'.db = (s.db.setStatus exec.id .scheduling).clearRunState exec.id ∧
      s.db.countRunning exec.tenantId exec.id < s.ctl.config.maxConcurrentExecutions := by
  unfold openRound at h
  split at h
  · cases h
  · rename_i hq
    split at h
    · cases h
    · split at h
      · cases h
      · rename_i hsel
        obtain ⟨c, rfl⟩ := by simpa [hsel] using (selectNodes_run ctx exec req.nodeIds s).1
        split at h
        · cases h
        · cases h
          exact ⟨rfl, by omega⟩

theorem closeRound_db (exec : Execution) (targets : List Int) (cmds : List (Int × AgentCommand))
    (s : Site) :
    (∃ f : SchedulingFailure, (closeRound exec targets cmds s).2.db =
        s.db.recordSchedule exec.id f.resultingStatus f.outcomes (some f.message) s.now) ∨
      ∃ outcomes, (closeRound exec targets cmds s).2.db =
        (s.db.addNodes exec.id (NodeOutcome.succeeded outcomes)).recordSchedule exec.id
          (judgeDispatch exec.status outcomes).1 outcomes (judgeDispatch exec.status outcomes).2
          s.now := by
  unfold closeRound
  dsimp only
  split
  · exact .inl ⟨_, rfl⟩
  · exact .inr ⟨_, rfl⟩

theorem eq_of_mem_modifyRow {db : Database} {x : Int} {g : ExecutionRow → ExecutionRow}
    {r' : ExecutionRow} (hr' : r' ∈ (db.modifyRow x g).executions)
    (hid : r'.id = x) : ∃ r ∈ db.executions, r' = g r := by
  obtain ⟨r, hr, hrr⟩ := Database.mem_modifyRow.mp hr'
  by_cases hx : r.id = x
  · simp only [hx, beq_self_eq_true, if_true] at hrr
    exact ⟨r, hr, hrr.symm⟩
  · have hne : (r.id == x) = false := by simpa using hx
    simp only [hne, Bool.false_eq_true, if_false] at hrr
    exact absurd (hrr ▸ hid) hx

theorem status_recordFailure {db : Database} {x : Int} {f : SchedulingFailure}
    {outcomes : List NodeOutcome} {message : Option String} {now : Int} {r : ExecutionRow}
    (hr : r ∈ (db.recordSchedule x f.resultingStatus outcomes message now).executions)
    (hid : r.id = x) : r.status ≠ .running := by
  unfold Database.recordSchedule at hr
  obtain ⟨r₀, -, rfl⟩ := eq_of_mem_modifyRow hr hid
  rcases SchedulingFailure.resultingStatus_pending_or_failed f with hs | hs <;>
    simp [hs]

/-- What opening a start of `exec` leaves: a write of the execution's rows, links and samples and
of the locks, after which the execution is not `RUNNING` and is linked to no node. -/
structure Opened (exec : Execution) (db db' : Database) : Prop where
  confined : Database.Confined exec.id db db'
  idle : ∀ r ∈ db'.executions, r.id = exec.id → r.status ≠ .running
  unlinked : ∀ n, (exec.id, n) ∉ db'.links

/-- Opening a start changes nothing, or opens it on a live execution that was not running: then
the start is in flight only if the quota check of its round passed. -/
theorem openStart_effect (ctx : RequestContext) (req : StartRequest) {s : Site}
    (h : s.db.Settled) :
    ((openStart ctx req s).1 = none ∧ (openStart ctx req s).2.db = s.db) ∨
      ∃ exec, req.broadcast = true ∧ s.db.execution? req.executionId = some exec ∧
        Opened exec s.db (openStart ctx req s).2.db ∧
        ∀ f, (openStart ctx req s).1 = some f → f.exec = exec ∧
          s.db.countRunning exec.tenantId exec.id < s.ctl.config.maxConcurrentExecutions := by
  unfold openStart
  cases hb : req.broadcast with
  | false => exact .inl ⟨rfl, start_relayed_db ctx req hb s⟩
  | true =>
    simp only [if_true]
    rcases hpre : precheck ctx req s with f | exec
    · exact .inl ⟨rfl, rfl⟩
    obtain ⟨hexec, hrun⟩ := precheck_ok hpre
    by_cases hacq : (acquireRestart s exec).1 = true
    · -- the round runs on the database with the lock taken, which differs only in its locks
      obtain ⟨locks, hlocks⟩ := Database.tryAcquire_eq_with_locks s.db (restartKey exec.id)
        (toString exec.id) s.ctl.config.dispatch.lockTtlSecs s.now
      have hacqdb : (acquireRestart s exec).2 = { s.db with locks } := hlocks
      have hconf := Database.confined_locks s.db exec.id locks
      refine .inr ⟨exec, by trivial, hexec, ?_⟩
      simp only [hacq, if_true, hacqdb]
      rcases hr : openRound ctx exec req { s with db := { s.db with locks } } with
        ⟨_ | ⟨targets, cmds⟩, s'⟩ <;> dsimp only
      · rename_i f
        refine ⟨?_, fun _ hf => by cases hf⟩
        rcases openRound_error hr with hdb | hdb <;> rw [hdb] <;> dsimp only <;>
          refine ⟨?_, fun r hr hid => status_recordFailure hr hid, fun n => ?_⟩
        · exact (hconf.trans (Database.confined_recordSchedule ..)).trans
            (Database.confined_release ..)
        · exact h.unlinked hexec hrun n
        · exact (((hconf.trans (Database.confined_setStatus ..)).trans
            (Database.confined_clearRunState ..)).trans (Database.confined_recordSchedule ..)).trans
              (Database.confined_release ..)
        · simp [releaseRestart, Database.release, Database.recordSchedule, Database.modifyRow]
      · obtain ⟨hdb, hquota⟩ := openRound_ok hr
        refine ⟨?_, fun f hf => ?_⟩
        · rw [hdb]
          refine ⟨(hconf.trans (Database.confined_setStatus ..)).trans
            (Database.confined_clearRunState ..), fun r hr hid => ?_, fun n => by simp⟩
          obtain ⟨r₀, -, rfl⟩ := eq_of_mem_modifyRow hr hid
          simp
        · cases hf
          exact ⟨rfl, hquota⟩
    · have hfalse : (acquireRestart s exec).1 = false := by simpa using hacq
      simp only [hfalse, Bool.false_eq_true, if_false]
      exact .inl ⟨trivial, Database.tryAcquire_db_of_false hfalse⟩

theorem closeStart_confined (f : Flight) (s : Site) :
    Database.Confined f.exec.id s.db (closeStart f s).db := by
  refine Database.Confined.trans ?_ (Database.confined_release ..)
  rcases closeRound_db f.exec f.targets f.cmds s with ⟨g, hdb⟩ | ⟨os, hdb⟩ <;> rw [hdb]
  · exact Database.confined_recordSchedule ..
  · exact (Database.confined_addNodes ..).trans (Database.confined_recordSchedule ..)

/-- Closing a start keeps a settled store settled when its execution is stored and unlinked: the
round links only nodes that accepted, and then judges the execution `RUNNING`. -/
theorem closeStart_settled (f : Flight) {s : Site} (h : s.db.Settled)
    (hstored : f.exec.id ∈ s.db.executions.map (·.id))
    (hx : ∀ n, (f.exec.id, n) ∉ s.db.links) :
    (closeStart f s).db.Settled := by
  have hrel : ∀ d : Database, d.Settled → (releaseRestart d f.exec).Settled :=
    fun d hd => hd.of_same rfl rfl
  apply hrel
  rcases closeRound_db f.exec f.targets f.cmds s with ⟨g, hdb⟩ | ⟨os, hdb⟩ <;> rw [hdb]
  · exact (Database.confined_recordSchedule ..).settled h hx
  · refine h.edit rfl (fun _ => rfl) (Database.addLinks_nodup _ _ h.links_nodup)
      (fun l hl hne => ?_) fun n hn => ⟨hstored, fun r _ _ _ => ?_⟩
    · rcases (Database.mem_links_addNodes _ _ _ l).mp hl with hl | hl
      · exact hl
      · exact absurd hl.1 hne
    · rcases (Database.mem_links_addNodes _ _ _ _).mp hn with hn | hn
      · exact absurd hn (hx n)
      · exact judgeDispatch_running hn.2

/-- Closing the start of a stored, unlinked execution is a write of that execution that keeps the
store settled and adds at most the execution to its tenant's running ones. -/
theorem closeStart_effect (f : Flight) {s : Site} (h : s.db.Settled)
    (hstored : f.exec.id ∈ s.db.executions.map (·.id))
    (hx : ∀ n, (f.exec.id, n) ∉ s.db.links) :
    Database.Confined f.exec.id s.db (closeStart f s).db ∧ (closeStart f s).db.Settled ∧
      (closeStart f s).db.runningCount f.exec.tenantId ≤
        s.db.countRunning f.exec.tenantId f.exec.id + 1 :=
  ⟨closeStart_confined f s, closeStart_settled f h hstored hx,
    (closeStart_confined f s).runningCount_le_succ h.ids_nodup _⟩

end Orchestrator

open Orchestrator

/-! ### Requests other than starts -/

namespace Database

/-- What a request other than a start leaves of the store: every row under its id and owner with
new rows after them, no new link, and no tenant with more executions `RUNNING`. -/
structure Calm (db db' : Database) : Prop where
  owners : db.owners <+: db'.owners
  links : ∀ l ∈ db'.links, l ∈ db.links
  running : ∀ t, db'.runningCount t ≤ db.runningCount t

theorem prefix_owners_of_eq {db db' : Database}
    (h : db'.executions.map (fun r => (r.id, r.tenantId)) =
      db.executions.map fun r => (r.id, r.tenantId)) :
    db.owners <+: db'.owners := by
  unfold owners
  rw [h]

namespace Calm

variable {db₁ db₂ db₃ : Database}

theorem refl (db : Database) : Calm db db := ⟨List.prefix_refl _, fun _ h => h, fun _ => le_rfl⟩

theorem trans (h₁ : Calm db₁ db₂) (h₂ : Calm db₂ db₃) : Calm db₁ db₃ :=
  ⟨h₁.owners.trans h₂.owners, fun l hl => h₁.links l (h₂.links l hl),
    fun t => (h₂.running t).trans (h₁.running t)⟩

end Calm

theorem calm_create {db db' : Database} {new : NewExecution} {id : Int}
    (hc : db.create new = .ok (id, db')) : Calm db db' := by
  have hrun := runningCount_create hc
  unfold Database.create at hc
  split at hc
  · cases hc
  · cases hc
    refine ⟨?_, fun _ h => h, fun t => (hrun t).le⟩
    simp only [owners, List.map_append]
    exact List.prefix_append _ _

theorem calm_updateThreads {db db' : Database} {id : Int} {th : ThreadConfig}
    (hu : db.updateThreads id th = .ok db') : Calm db db' := by
  have hrun := runningCount_updateThreads_le hu
  have howners := (confined_updateThreads hu).owners
  unfold Database.updateThreads at hu
  split at hu
  · cases hu
  · split at hu
    · cases hu
    · cases hu
      exact ⟨prefix_owners_of_eq howners, fun _ h => h, hrun⟩

theorem calm_softDelete (db : Database) (id now : Int) : Calm db (db.softDelete id now) :=
  ⟨prefix_owners_of_eq (confined_softDelete db id now).owners,
    fun _ hl => List.mem_of_mem_filter hl, runningCount_softDelete_le db id now⟩

end Database

namespace Orchestrator

open Database

theorem calm_stop (ctx : RequestContext) (req : StopRequest) {s : Site} (h : s.db.Settled)
    (hown : req.broadcast = true → req.nodeIds = []) :
    Calm s.db ((stop ctx req).run.run s).2.db := by
  refine ⟨prefix_owners_of_eq (stop_spares ctx req s h.ids_nodup).owners, fun l hl => ?_,
    stop_runningCount_le ctx req h hown⟩
  rcases stop_effect ctx req s with ⟨-, hlinks⟩ | ⟨exec, hb, hexec, hmay, hfree⟩
  · rwa [hlinks] at hl
  · rw [run_stop_primary ctx req s exec hb hexec hmay hfree] at hl
    exact ((mem_links_removeNodes _ _ _ _).mp hl).1

theorem calm_complete (ctx : RequestContext) (id : Int) (report : CompletionReport) (s : Site) :
    Calm s.db ((complete ctx id report).run.run s).2.db := by
  rcases complete_effect ctx id report s with ⟨hrows, hlinks⟩ | ⟨exec, -, -, hrows, hlinks⟩
  · exact ⟨prefix_owners_of_eq (by rw [hrows]), fun l hl => hlinks ▸ hl,
      fun t => (runningCount_eq_of_executions hrows t).le⟩
  · refine ⟨prefix_owners_of_eq (by rw [hrows]; exact (confined_finish ..).owners),
      fun l hl => ?_,
      complete_runningCount_le ctx id report s⟩
    rw [hlinks] at hl
    exact ((mem_links_removeNodes _ _ _ _).mp hl).1

theorem calm_delete (ctx : RequestContext) (ids : List Int) {s : Site} (h : s.db.Settled) :
    Calm s.db ((delete ctx ids).run s).2.db :=
  (delete_preserves (fun db => db.Settled ∧ Calm s.db db)
    (fun _ ctx _ hs => ⟨stop_settled ctx _ hs.1 fun _ => rfl,
      hs.2.trans (calm_stop ctx _ hs.1 fun _ => rfl)⟩)
    (fun db id now hdb => ⟨hdb.1.softDelete id now, hdb.2.trans (calm_softDelete db id now)⟩)
    ctx ids s ⟨h, .refl _⟩).2

end Orchestrator

/-- A request other than a start, whose broadcast stop names no nodes, leaves a settled store
calm. -/
theorem Request.serve_calm (req : Request) (hown : req.StopsOwnNodes)
    (hstart : ∀ ctx r, req ≠ .start ctx r) {s : Site} (h : s.db.Settled) :
    Database.Calm s.db (req.serve s) := by
  cases req with
  | create new =>
    dsimp only [Request.serve]
    split
    · exact Database.calm_create ‹_›
    · exact .refl _
  | updateThreads id th =>
    dsimp only [Request.serve]
    split
    · exact Database.calm_updateThreads ‹_›
    · exact .refl _
  | start ctx r => exact absurd rfl (hstart ctx r)
  | stop ctx r => exact calm_stop ctx r h hown
  | complete ctx id report => exact calm_complete ctx id report s
  | delete ctx ids => exact calm_delete ctx ids h

/-! ### Requests side by side -/

def Request.roundOf? : Request → Option Int
  | .start _ r => if r.broadcast then some r.executionId else none
  | _ => none

structure Host where
  ctl : Controller
  now : Int
  siblings : Siblings

def Host.on (h : Host) (db : Database) : Site := ⟨db, h.ctl, h.now, h.siblings⟩

/-- One step of requests served side by side: a request served at once, the opening of a
broadcast start, or the closing of the `i`-th start in flight. -/
inductive Event where
  | whole (req : Request) (host : Host)
  | opens (ctx : RequestContext) (req : StartRequest) (host : Host)
  | closes (i : Nat) (host : Host)

/-- A database shared by instances, and the broadcast starts in flight over it. -/
structure Traffic where
  db : Database
  flights : List Flight

namespace Traffic

/-- One step. A start that gets past its checks, the lock and the first half of its round joins
the starts in flight; closing an index with no start does nothing. -/
def step (c : Traffic) : Event → Traffic
  | .whole req h => { c with db := req.serve (h.on c.db) }
  | .opens ctx req h =>
    { db := (openStart ctx req (h.on c.db)).2.db,
      flights := c.flights ++ (openStart ctx req (h.on c.db)).1.toList }
  | .closes i h =>
    match c.flights[i]? with
    | none => c
    | some f => { db := (closeStart f (h.on c.db)).db, flights := c.flights.eraseIdx i }

def run (c : Traffic) (events : List Event) : Traffic := events.foldl step c

def Clear (c : Traffic) (id : Int) : Prop :=
  ∀ f ∈ c.flights, some f.exec.tenantId ≠ (c.db.execution? id).map (·.tenantId)

instance (c : Traffic) : DecidablePred c.Clear :=
  fun _ => inferInstanceAs (Decidable (∀ f ∈ c.flights, _))

/-- The steps the quota `q` is kept under: the instance's quota is at most `q`, a broadcast stop
names no nodes, and a broadcast start runs its round only while no start of its tenant is in
flight. -/
def Admits (q : Nat) (c : Traffic) : Event → Prop
  | .whole req h => h.ctl.config.maxConcurrentExecutions ≤ q ∧ req.StopsOwnNodes ∧
      ∀ id ∈ req.roundOf?.toList, c.Clear id
  | .opens _ req h => h.ctl.config.maxConcurrentExecutions ≤ q ∧
      (req.broadcast = true → c.Clear req.executionId)
  | .closes _ _ => True

instance (q : Nat) (c : Traffic) : (e : Event) → Decidable (c.Admits q e)
  | .whole _ _ => inferInstanceAs (Decidable (_ ∧ _ ∧ _))
  | .opens _ _ _ => inferInstanceAs (Decidable (_ ∧ _))
  | .closes _ _ => inferInstanceAs (Decidable True)

/-- A schedule each step of which is admitted where it is taken. -/
def Admitted (q : Nat) : Traffic → List Event → Prop
  | _, [] => True
  | c, e :: rest => c.Admits q e ∧ Admitted q (c.step e) rest

instance decidableAdmitted (q : Nat) : (c : Traffic) → (events : List Event) →
    Decidable (Admitted q c events)
  | _, [] => isTrue trivial
  | c, e :: rest => @instDecidableAnd _ _ inferInstance (decidableAdmitted q (c.step e) rest)

end Traffic

/-! ### The quota across interleavings -/

/-- What the quota `q` rests on while starts are in flight: the store is settled and within the
quota, and each start in flight has its execution stored and unlinked, its tenant below the quota
and alone in flight. -/
structure Traffic.QuotaKept (q : Nat) (c : Traffic) : Prop where
  settled : c.db.Settled
  within : c.db.WithinQuota q
  stored : ∀ f ∈ c.flights, (f.exec.id, f.exec.tenantId) ∈ c.db.owners
  unlinked : ∀ f ∈ c.flights, ∀ n, (f.exec.id, n) ∉ c.db.links
  below : ∀ f ∈ c.flights, c.db.runningCount f.exec.tenantId < q
  apart : c.flights.Pairwise fun f f' => f.exec.tenantId ≠ f'.exec.tenantId

section Kept

variable {q : Nat} {c : Traffic}

theorem Traffic.QuotaKept.calm (hc : c.QuotaKept q) {db' : Database}
    (hcalm : Database.Calm c.db db')
    (hs : db'.Settled) : Traffic.QuotaKept q ⟨db', c.flights⟩ where
  settled := hs
  within t := (hcalm.running t).trans (hc.within t)
  stored f hf := hcalm.owners.subset (hc.stored f hf)
  unlinked f hf n hn := hc.unlinked f hf n (hcalm.links _ hn)
  below f hf := (hcalm.running _).trans_lt (hc.below f hf)
  apart := hc.apart

/-- A write confined to an execution of a tenant with no start in flight, keeping that tenant
within the quota, keeps the invariant for the starts left in flight. -/
theorem Traffic.QuotaKept.write (hc : c.QuotaKept q) {x tx : Int} (hx : (x, tx) ∈ c.db.owners)
    {db' : Database} (hconf : Database.Confined x c.db db') (hs : db'.Settled)
    (hq : db'.runningCount tx ≤ q) {flights : List Flight} (hsub : flights.Sublist c.flights)
    (hfree : ∀ f ∈ flights, f.exec.tenantId ≠ tx) :
    Traffic.QuotaKept q ⟨db', flights⟩ where
  settled := hs
  within t := by
    by_cases ht : t = tx
    · exact ht ▸ hq
    · exact (hconf.runningCount_le_of_ne hc.settled.ids_nodup hx ht).trans (hc.within t)
  stored f hf := by
    unfold Database.owners
    rw [hconf.owners]
    exact hc.stored f (hsub.subset hf)
  unlinked f hf n hn := by
    have hne : f.exec.id ≠ x := fun he => hfree f hf
      (Database.eq_of_owners hc.settled.ids_nodup (he ▸ hc.stored f (hsub.subset hf)) hx)
    exact hc.unlinked f (hsub.subset hf) n (hconf.mem_links_of_ne hn hne)
  below f hf := (hconf.runningCount_le_of_ne hc.settled.ids_nodup hx (hfree f hf)).trans_lt
    (hc.below f (hsub.subset hf))
  apart := hc.apart.sublist hsub

theorem Traffic.QuotaKept.push (hc : c.QuotaKept q) (f : Flight)
    (hstored : (f.exec.id, f.exec.tenantId) ∈ c.db.owners)
    (hunl : ∀ n, (f.exec.id, n) ∉ c.db.links)
    (hbelow : c.db.runningCount f.exec.tenantId < q)
    (hfree : ∀ f' ∈ c.flights, f'.exec.tenantId ≠ f.exec.tenantId) :
    Traffic.QuotaKept q ⟨c.db, c.flights ++ [f]⟩ where
  settled := hc.settled
  within := hc.within
  stored f' hf' := by
    rcases List.mem_append.mp hf' with hf' | hf'
    · exact hc.stored f' hf'
    · exact (List.mem_singleton.mp hf') ▸ hstored
  unlinked f' hf' := by
    rcases List.mem_append.mp hf' with hf' | hf'
    · exact hc.unlinked f' hf'
    · exact (List.mem_singleton.mp hf') ▸ hunl
  below f' hf' := by
    rcases List.mem_append.mp hf' with hf' | hf'
    · exact hc.below f' hf'
    · exact (List.mem_singleton.mp hf') ▸ hbelow
  apart := List.pairwise_append.mpr ⟨hc.apart, List.pairwise_singleton _ _,
    fun a ha b hb => (List.mem_singleton.mp hb) ▸ hfree a ha⟩

theorem Traffic.Clear.tenant_ne {id : Int} (h : c.Clear id) {e : Execution}
    (he : c.db.execution? id = some e) : ∀ f ∈ c.flights, f.exec.tenantId ≠ e.tenantId :=
  fun f hf heq => h f hf (by rw [he, heq]; rfl)

theorem Orchestrator.Opened.runningCount_le {exec : Execution} {db db' : Database}
    (h : Opened exec db db') (t : Int) : db'.runningCount t ≤ db.countRunning t exec.id :=
  h.confined.runningCount_le_of_uncounted fun r hr hid => by
    simp [Database.runsFor, h.idle r hr hid]

/-- A broadcast start served at once while no start of its tenant is in flight keeps the
invariant: its round checked the quota before making the execution `RUNNING`. -/
theorem Traffic.QuotaKept.serveStart (hc : c.QuotaKept q) (ctx : RequestContext) (r : StartRequest)
    (h : Host) (hcfg : h.ctl.config.maxConcurrentExecutions ≤ q)
    (hclear : r.broadcast = true → c.Clear r.executionId) :
    Traffic.QuotaKept q ⟨(Request.start ctx r).serve (h.on c.db), c.flights⟩ := by
  have hsplit : (Request.start ctx r).serve (h.on c.db) = (match openStart ctx r (h.on c.db) with
      | (none, s') => s'
      | (some f, s') => closeStart f s').db := by
    show ((start ctx r).run.run (h.on c.db)).2.db = _
    rw [start_split]
  have heff := openStart_effect ctx r (s := h.on c.db) hc.settled
  rw [hsplit]
  rcases hopen : openStart ctx r (h.on c.db) with ⟨fl, s₁⟩
  rw [hopen] at heff
  rcases heff with ⟨rfl, hdb⟩ | ⟨exec, hb, hexec, hround, hflight⟩
  · exact hdb ▸ hc
  have hx := Database.mem_owners_of_execution? hexec
  have hfree := (hclear hb).tenant_ne hexec
  have hsettled := hround.confined.settled hc.settled hround.unlinked
  cases fl with
  | none =>
    refine hc.write hx hround.confined hsettled ?_ (List.Sublist.refl _) hfree
    exact (hround.runningCount_le _).trans
      ((Database.countRunning_le_runningCount _ _ _).trans (hc.within _))
  | some f =>
    -- the round went on to its dispatch: it closes at once, on the site its opening left
    obtain ⟨rfl, hquota⟩ := hflight f rfl
    have hstored : f.exec.id ∈ s₁.db.executions.map (·.id) := by
      rw [hround.confined.ids]
      exact Database.mem_ids_of_owners hx
    obtain ⟨hconf, hs, hle⟩ := closeStart_effect f hsettled hstored hround.unlinked
    refine hc.write hx (hround.confined.trans hconf) hs ?_ (List.Sublist.refl _) hfree
    rw [hround.confined.countRunning_eq] at hle
    have hcfg' : (h.on c.db).ctl.config.maxConcurrentExecutions ≤ q := hcfg
    omega

theorem Traffic.QuotaKept.whole (hc : c.QuotaKept q) (req : Request) (h : Host)
    (he : c.Admits q (.whole req h)) : (c.step (.whole req h)).QuotaKept q := by
  obtain ⟨hcfg, hown, hclear⟩ := he
  by_cases hst : ∃ ctx r, req = .start ctx r
  · obtain ⟨ctx, r, rfl⟩ := hst
    exact hc.serveStart ctx r h hcfg fun hb =>
      hclear r.executionId (by simp [Request.roundOf?, hb])
  · exact hc.calm (req.serve_calm (s := h.on c.db) hown (fun ctx r he => hst ⟨ctx, r, he⟩)
      hc.settled) (req.serve_settled hown hc.settled)

/-- Opening a start while no start of its tenant is in flight keeps the invariant: a start that
gets to its dispatch passed the quota check and left its execution `SCHEDULING` and unlinked. -/
theorem Traffic.QuotaKept.opens (hc : c.QuotaKept q) (ctx : RequestContext) (r : StartRequest)
    (h : Host) (hcfg : h.ctl.config.maxConcurrentExecutions ≤ q)
    (hclear : r.broadcast = true → c.Clear r.executionId) :
    (c.step (.opens ctx r h)).QuotaKept q := by
  have heff := openStart_effect ctx r (s := h.on c.db) hc.settled
  simp only [Traffic.step]
  rcases hopen : openStart ctx r (h.on c.db) with ⟨fl, s₁⟩
  rw [hopen] at heff
  dsimp only at heff
  rcases heff with ⟨rfl, hdb⟩ | ⟨exec, hb, hexec, hround, hflight⟩
  · simp only [Option.toList, List.append_nil]
    exact hdb ▸ hc
  have hx := Database.mem_owners_of_execution? hexec
  have hfree := (hclear hb).tenant_ne hexec
  have hle := hround.runningCount_le exec.tenantId
  have hcount := Database.countRunning_le_runningCount c.db exec.tenantId exec.id
  have hkept := hc.write hx hround.confined (hround.confined.settled hc.settled hround.unlinked)
    (hle.trans (hcount.trans (hc.within _))) (List.Sublist.refl _) hfree
  cases fl with
  | none => simpa using hkept
  | some f =>
    obtain ⟨rfl, hquota⟩ := hflight f rfl
    have hcfg' : (h.on c.db).ctl.config.maxConcurrentExecutions ≤ q := hcfg
    have hbelow : s₁.db.runningCount f.exec.tenantId < q := by omega
    have hx' : (f.exec.id, f.exec.tenantId) ∈ s₁.db.owners := by
      unfold Database.owners
      rw [hround.confined.owners]
      exact hx
    exact hkept.push f hx' hround.unlinked hbelow hfree

/-- Closing a start keeps the invariant: its tenant was below the quota, and its round adds at
most its own execution to the tenant's running ones. -/
theorem Traffic.QuotaKept.closes (hc : c.QuotaKept q) (i : Nat) (h : Host) :
    (c.step (.closes i h)).QuotaKept q := by
  simp only [Traffic.step]
  rcases hf : c.flights[i]? with _ | f <;> dsimp only
  · exact hc
  obtain ⟨hi, hfi⟩ := List.getElem?_eq_some_iff.mp hf
  have hmem : f ∈ c.flights := List.mem_of_getElem? hf
  have hx := hc.stored f hmem
  -- the starts left in flight are of other tenants than the one closing
  have hfree : ∀ f' ∈ c.flights.eraseIdx i, f'.exec.tenantId ≠ f.exec.tenantId := by
    have hpw := ((List.getElem_cons_eraseIdx_perm hi).pairwise_iff (fun h => Ne.symm h)).mpr
      hc.apart
    rw [hfi, List.pairwise_cons] at hpw
    exact fun f' hf' => (hpw.1 f' hf').symm
  obtain ⟨hconf, hs, hle⟩ := closeStart_effect f (s := h.on c.db) hc.settled
    (Database.mem_ids_of_owners hx) (hc.unlinked f hmem)
  refine hc.write hx hconf hs ?_ (List.eraseIdx_sublist _ _) hfree
  have hcount := Database.countRunning_le_runningCount c.db f.exec.tenantId f.exec.id
  have hbelow := hc.below f hmem
  have hdb : (h.on c.db).db = c.db := rfl
  rw [hdb] at hle
  omega

theorem Traffic.QuotaKept.step (hc : c.QuotaKept q) {e : Event} (he : c.Admits q e) :
    (c.step e).QuotaKept q := by
  cases e with
  | whole req h => exact hc.whole req h he
  | opens ctx r h => exact hc.opens ctx r h he.1 he.2
  | closes i h => exact hc.closes i h

theorem Traffic.QuotaKept.run {c : Traffic} (hc : c.QuotaKept q) :
    ∀ {events : List Event}, Traffic.Admitted q c events → (c.run events).QuotaKept q
  | [], _ => hc
  | _ :: _, ⟨he, hrest⟩ => (hc.step he).run hrest

end Kept

/-- From an empty store, however requests interleave, no tenant ever has more than `q` live
executions `RUNNING`, when every instance's quota is at most `q`, broadcast stops name no nodes, and
no broadcast start runs its round while another start of its tenant is in flight. -/
theorem running_executions_within_quota_interleaved (db : Database) (events : List Event) (q : Nat)
    (hrows : db.executions = []) (hlinks : db.links = [])
    (hadm : Traffic.Admitted q ⟨db, []⟩ events) (t : Int) :
    (Traffic.run ⟨db, []⟩ events).db.runningCount t ≤ q := by
  have hinit : Traffic.QuotaKept q ⟨db, []⟩ :=
    { settled := Database.Settled.empty hrows hlinks
      within := fun t => by simp [Database.runningCount, hrows]
      stored := fun _ hf => absurd hf List.not_mem_nil
      unlinked := fun _ hf => absurd hf List.not_mem_nil
      below := fun _ hf => absurd hf List.not_mem_nil
      apart := List.Pairwise.nil }
  exact (hinit.run hadm).within t

def quotaOneHost : Host :=
  ⟨{ acceptingInstance with config := { maxConcurrentExecutions := 1 } }, 1750000000000,
    .unreachable⟩

def nodeTwo : Node := ⟨2, some 2, "n2", "127.0.0.1", true, 1750000000000⟩

def twoTenantStarts : List Event :=
  [.whole (.create tenantOneExecution) quotaOneHost,
   .whole (.create { tenantOneExecution with tenantId := 2 }) quotaOneHost,
   .whole (.create tenantOneExecution) quotaOneHost,
   .opens .system { executionId := 1 } quotaOneHost,
   .opens .system { executionId := 2 } quotaOneHost,
   .closes 0 quotaOneHost, .opens .system { executionId := 3 } quotaOneHost, .closes 0 quotaOneHost]

/-- Starts of two tenants in flight together both run; the later start of tenant 1 is refused by
the quota. -/
theorem twoTenantStarts_within_quota :
    Traffic.Admitted 1 ⟨{ nodes := [nodeOne, nodeTwo] }, []⟩ twoTenantStarts ∧
      (∀ t,
        (Traffic.run ⟨{ nodes := [nodeOne, nodeTwo] }, []⟩ twoTenantStarts).db.runningCount t ≤ 1) ∧
      (Traffic.run ⟨{ nodes := [nodeOne, nodeTwo] }, []⟩ twoTenantStarts).db.runningCount 1 = 1 ∧
      (Traffic.run ⟨{ nodes := [nodeOne, nodeTwo] }, []⟩ twoTenantStarts).db.runningCount 2 = 1 :=
  have hadm : Traffic.Admitted 1 ⟨{ nodes := [nodeOne, nodeTwo] }, []⟩ twoTenantStarts := by
    decide +kernel
  ⟨hadm, running_executions_within_quota_interleaved _ twoTenantStarts 1 rfl rfl hadm,
    by decide +kernel, by decide +kernel⟩

def overlappingStarts : List Event :=
  [.whole (.create tenantOneExecution) quotaOneHost,
   .whole (.create tenantOneExecution) quotaOneHost,
   .opens .system { executionId := 1 } quotaOneHost,
   .opens .system { executionId := 2 } quotaOneHost,
   .closes 0 quotaOneHost, .closes 0 quotaOneHost]

def stopsOnNodeSeven : List Event :=
  [.whole (.create tenantOneExecution) quotaOneHost,
   .whole (.create tenantOneExecution) quotaOneHost,
   .whole (.stop .system { executionId := 1, nodeIds := [7] }) quotaOneHost,
   .whole (.stop .system { executionId := 2, nodeIds := [7] }) quotaOneHost]

/-- Both admission conditions are needed: two starts of tenant 1 in flight together each pass the
quota check, and a broadcast stop failing on a node where its execution does not run leaves it
`RUNNING`. Either way tenant 1 ends with two executions `RUNNING` under a quota of one. -/
theorem quota_exceeded_by_overlapping_starts_or_foreign_stops :
    ¬Traffic.Admitted 1 ⟨{ nodes := [nodeOne] }, []⟩ overlappingStarts ∧
      (Traffic.run ⟨{ nodes := [nodeOne] }, []⟩ overlappingStarts).db.runningCount 1 = 2 ∧
      ¬Traffic.Admitted 1 ⟨{}, []⟩ stopsOnNodeSeven ∧
      (Traffic.run ⟨{}, []⟩ stopsOnNodeSeven).db.runningCount 1 = 2 :=
  ⟨by decide +kernel, by decide +kernel, by decide +kernel, by decide +kernel⟩

end LoadDispatch
