import LoadDispatch.Proofs.Settled

/-!
The concurrency quota. A start runs its round only while fewer than the instance's quota of the
tenant's other executions are `RUNNING`, and on a settled store no other request makes an
execution newly `RUNNING`, so requests served one at a time keep every tenant within the quota
(`running_executions_within_quota`). The exception is a broadcast stop that names a node where its
pending execution does not run: it fails there and leaves the execution `RUNNING` past the quota.
-/
namespace LoadDispatch

namespace Database

def runsFor (t : Int) (r : ExecutionRow) : Bool :=
  r.tenantId == t && r.status == .running && r.deletedAt.isNone

/-- How many live executions of a tenant are `RUNNING`. -/
def runningCount (db : Database) (t : Int) : Nat := db.executions.countP (runsFor t)

theorem runningCount_modifyRow_le {db : Database} {x t : Int} {f : ExecutionRow → ExecutionRow}
    (hf : ∀ r ∈ db.executions, r.id = x → runsFor t (f r) = true → runsFor t r = true) :
    (db.modifyRow x f).runningCount t ≤ db.runningCount t := by
  unfold runningCount modifyRow
  rw [List.countP_map]
  apply List.countP_mono_left
  intro r hr hrun
  by_cases hx : r.id = x
  · simp only [Function.comp_apply, hx, beq_self_eq_true, if_true] at hrun
    exact hf r hr hx hrun
  · simpa [hx] using hrun

/-- With distinct ids, an edit of one execution's row counts at most that row beyond the other
running executions of the tenant. -/
theorem runningCount_modifyRow_le_succ (db : Database) (x t : Int) (f : ExecutionRow → ExecutionRow)
    (hnd : (db.executions.map (·.id)).Nodup) :
    (db.modifyRow x f).runningCount t ≤ db.countRunning t x + 1 := by
  unfold runningCount modifyRow
  rw [List.countP_map, List.countP_eq_countP_filter_add _ _ (·.id == x)]
  have hone : (db.executions.filter (·.id == x)).length ≤ 1 := by
    have hcount := List.nodup_iff_count_le_one.mp hnd x
    rwa [List.count_eq_countP, List.countP_map, List.countP_eq_length_filter] at hcount
  have hrest : (db.executions.filter fun r => !(r.id == x)).countP
      ((runsFor t) ∘ fun r => if r.id == x then f r else r) = db.countRunning t x := by
    unfold countRunning
    rw [List.countP_filter, List.countP_eq_length_filter]
    congr 1
    apply List.filter_congr
    intro r _
    by_cases hx : r.id = x
    · simp [hx]
    · have hne : (r.id == x) = false := by simpa using hx
      simp [hne, hx, bne, runsFor]
  have hfirst : (db.executions.filter (·.id == x)).countP
      ((runsFor t) ∘ fun r => if r.id == x then f r else r) ≤
        (db.executions.filter (·.id == x)).length := List.countP_le_length
  omega

theorem runningCount_eq_of_executions {db db' : Database} (h : db'.executions = db.executions)
    (t : Int) : db'.runningCount t = db.runningCount t := by
  unfold runningCount
  rw [h]

theorem runsFor_iff {t : Int} {r : ExecutionRow} :
    runsFor t r = true ↔ r.tenantId = t ∧ r.status = .running ∧ r.deletedAt = none := by
  simp [runsFor, and_assoc]

theorem runsFor_tenant {t : Int} {r : ExecutionRow} (h : runsFor t r = true) : r.tenantId = t :=
  (runsFor_iff.mp h).1

theorem runningCount_create {db db' : Database} {new : NewExecution} {id : Int}
    (hc : db.create new = .ok (id, db')) (t : Int) : db'.runningCount t = db.runningCount t := by
  unfold Database.create at hc
  split at hc
  · cases hc
  · cases hc
    simp [runningCount, List.countP_append, runsFor]

/-- No tenant has more than `q` live executions `RUNNING`. -/
def WithinQuota (q : Nat) (db : Database) : Prop := ∀ t, db.runningCount t ≤ q

/-- In a settled store the rows with a live execution's id are its row. -/
theorem Settled.row_eq {db : Database} (h : db.Settled) {id : Int} {e : Execution}
    (he : db.execution? id = some e) {r : ExecutionRow} (hr : r ∈ db.executions) (hid : r.id = e.id) :
    r = e.toExecutionRow :=
  List.inj_on_of_nodup_map h.ids_nodup hr (execution?_some he).1 hid

section Quota

variable {q : Nat} {db : Database} (hq : db.WithinQuota q)
include hq

theorem WithinQuota.modifyRow {x : Int} {f : ExecutionRow → ExecutionRow}
    (hf : ∀ t, ∀ r ∈ db.executions, r.id = x → runsFor t (f r) = true → runsFor t r = true) :
    (db.modifyRow x f).WithinQuota q :=
  fun t => (runningCount_modifyRow_le (hf t)).trans (hq t)

theorem WithinQuota.of_executions {db' : Database} (hrows : db'.executions = db.executions) :
    db'.WithinQuota q := fun t => (runningCount_eq_of_executions hrows t).trans_le (hq t)

theorem WithinQuota.create {db' : Database} {new : NewExecution} {id : Int}
    (hc : db.create new = .ok (id, db')) : db'.WithinQuota q := by
  intro t
  rw [runningCount_create hc]
  exact hq t

end Quota

theorem runningCount_updateThreads_le {db db' : Database} {id : Int} {th : ThreadConfig}
    (hu : db.updateThreads id th = .ok db') (t : Int) : db'.runningCount t ≤ db.runningCount t := by
  unfold Database.updateThreads at hu
  split at hu
  · cases hu
  · split at hu
    · cases hu
    · cases hu
      exact runningCount_modifyRow_le fun _ _ _ hrun => hrun

theorem runningCount_softDelete_le (db : Database) (id now t : Int) :
    (db.softDelete id now).runningCount t ≤ db.runningCount t := by
  refine runningCount_modifyRow_le fun r _ _ hrun => ?_
  split at hrun
  · simp [runsFor] at hrun
  · exact hrun

theorem WithinQuota.updateThreads {q : Nat} {db db' : Database} (hq : db.WithinQuota q) {id : Int}
    {th : ThreadConfig} (hu : db.updateThreads id th = .ok db') : db'.WithinQuota q :=
  fun t => (runningCount_updateThreads_le hu t).trans (hq t)

theorem WithinQuota.softDelete {q : Nat} {db : Database} (hq : db.WithinQuota q) (id now : Int) :
    (db.softDelete id now).WithinQuota q :=
  fun t => (runningCount_softDelete_le db id now t).trans (hq t)

end Database

namespace Orchestrator

open Database

theorem start_withinQuota {q : Nat} (ctx : RequestContext) (req : StartRequest) {s : Site}
    (h : s.db.Settled) (hq : s.db.WithinQuota q) (hcfg : s.ctl.config.maxConcurrentExecutions ≤ q) :
    ((start ctx req).run.run s).2.db.WithinQuota q := by
  rcases start_effect ctx req s with ⟨hrows, -⟩ | ⟨exec, hexec, -, hleaves⟩
  · exact hq.of_executions hrows
  have hfailed (f : SchedulingFailure) (t : Int) (r : ExecutionRow) :
      r.status = f.resultingStatus → runsFor t r = false := by
    intro hs
    rcases SchedulingFailure.resultingStatus_pending_or_failed f with hf | hf <;>
      simp [runsFor, hs, hf]
  rcases hleaves with ⟨f, hrows, -⟩ | ⟨f, hrows, -⟩ | ⟨os, hquota, hrows, -⟩
  · refine WithinQuota.of_executions (hq.modifyRow fun t r _ _ hrun => ?_) hrows
    rw [hfailed f t _ rfl] at hrun
    cases hrun
  · refine WithinQuota.of_executions (hq.modifyRow fun t r _ _ hrun => ?_)
      (hrows.trans (executions_modifyRow_modifyRow _ _ _ fun _ => rfl))
    rw [hfailed f t _ rfl] at hrun
    cases hrun
  -- the round ran, so the tenant had fewer than the quota of other executions running
  obtain ⟨g, hg, hgt⟩ : ∃ g : ExecutionRow → ExecutionRow,
      ((start ctx req).run.run s).2.db.executions = (s.db.modifyRow exec.id g).executions ∧
        ∀ r, (g r).tenantId = r.tenantId :=
    ⟨_, hrows.trans (executions_modifyRow_modifyRow _ _ _ fun _ => rfl), fun _ => rfl⟩
  intro t
  rw [runningCount_eq_of_executions hg]
  by_cases ht : t = exec.tenantId
  · subst ht
    have hnext := runningCount_modifyRow_le_succ s.db exec.id exec.tenantId g h.ids_nodup
    omega
  · -- the started execution is of another tenant, so this tenant's count does not grow
    refine (runningCount_modifyRow_le fun r hr hid hrun => ?_).trans (hq t)
    have hrow := h.row_eq hexec hr hid
    have htenant := runsFor_tenant hrun
    rw [hgt, hrow] at htenant
    exact absurd htenant.symm ht

/-- A broadcast stop sent to all of an execution's nodes makes no execution newly `RUNNING`: it
leaves one `RUNNING` only when a node it is linked to did not stop, and then it was running. -/
theorem stop_runningCount_le (ctx : RequestContext) (req : StopRequest) {s : Site}
    (h : s.db.Settled) (hown : req.broadcast = true → req.nodeIds = []) (t : Int) :
    ((stop ctx req).run.run s).2.db.runningCount t ≤ s.db.runningCount t := by
  rcases stop_effect ctx req s with ⟨hrows, -⟩ | ⟨exec, hb, hexec, hmay, hfree⟩
  · exact (runningCount_eq_of_executions hrows t).le
  rw [run_stop_primary ctx req s exec hb hexec hmay hfree, stopTargets_own (hown hb) hexec]
  set outs := (stopRound exec (s.db.nodeIds exec.id) s).1
  refine runningCount_modifyRow_le fun r hr hid hrun => ?_
  rw [runsFor_iff] at hrun ⊢
  split_ifs at hrun with hterm hall
  · exact hrun
  · simp at hrun
  · -- a node that did not stop is linked to the execution, so it was running
    obtain ⟨o, ho, -⟩ : ∃ o ∈ outs, o.success = false := by simpa using hall
    obtain ⟨n, -, hn⟩ := stopRound_own_linked exec h.links_nodup ho
    exact ⟨hrun.1, h.linked_running r hr hrun.2.2 n (hid ▸ hn), hrun.2.2⟩

theorem stop_withinQuota {q : Nat} (ctx : RequestContext) (req : StopRequest) {s : Site}
    (h : s.db.Settled) (hown : req.broadcast = true → req.nodeIds = [])
    (hq : s.db.WithinQuota q) : ((stop ctx req).run.run s).2.db.WithinQuota q :=
  fun t => (stop_runningCount_le ctx req h hown t).trans (hq t)

theorem complete_runningCount_le (ctx : RequestContext) (id : Int) (report : CompletionReport)
    (s : Site) (t : Int) :
    ((complete ctx id report).run.run s).2.db.runningCount t ≤ s.db.runningCount t := by
  rcases complete_effect ctx id report s with ⟨hrows, -⟩ | ⟨-, -, hterm, hrows, -⟩
  · exact (runningCount_eq_of_executions hrows t).le
  have hdone : report.status ≠ .running := fun hs => by
    rw [hs] at hterm
    cases hterm
  rw [runningCount_eq_of_executions hrows t]
  refine runningCount_modifyRow_le fun r _ _ hrun => ?_
  simp [runsFor, hdone] at hrun

theorem complete_withinQuota {q : Nat} (ctx : RequestContext) (id : Int) (report : CompletionReport)
    {s : Site} (hq : s.db.WithinQuota q) : ((complete ctx id report).run.run s).2.db.WithinQuota q :=
  fun t => (complete_runningCount_le ctx id report s t).trans (hq t)

/-- A batch delete is made of stops sent to whole executions and soft deletes, so it makes no
execution newly `RUNNING`. -/
theorem delete_runningCount_le (ctx : RequestContext) (ids : List Int) {s : Site}
    (h : s.db.Settled) (t : Int) :
    ((delete ctx ids).run s).2.db.runningCount t ≤ s.db.runningCount t :=
  (delete_preserves (fun db => db.Settled ∧ db.runningCount t ≤ s.db.runningCount t)
    (fun _ ctx _ hs => ⟨stop_settled ctx _ hs.1 fun _ => rfl,
      (stop_runningCount_le ctx _ hs.1 (fun _ => rfl) t).trans hs.2⟩)
    (fun db id now hdb => ⟨hdb.1.softDelete id now,
      (runningCount_softDelete_le db id now t).trans hdb.2⟩) ctx ids s ⟨h, le_rfl⟩).2

theorem delete_withinQuota {q : Nat} (ctx : RequestContext) (ids : List Int) {s : Site}
    (h : s.db.Settled) (hq : s.db.WithinQuota q) : ((delete ctx ids).run s).2.db.WithinQuota q :=
  fun t => (delete_runningCount_le ctx ids h t).trans (hq t)

end Orchestrator

theorem Request.serve_withinQuota {q : Nat} (req : Request) (hown : req.StopsOwnNodes) {s : Site}
    (hcfg : s.ctl.config.maxConcurrentExecutions ≤ q) (h : s.db.Settled)
    (hq : s.db.WithinQuota q) : (req.serve s).WithinQuota q := by
  cases req with
  | create new =>
    dsimp only [Request.serve]
    split
    · exact hq.create ‹_›
    · exact hq
  | updateThreads id t =>
    dsimp only [Request.serve]
    split
    · exact hq.updateThreads ‹_›
    · exact hq
  | start ctx req => exact Orchestrator.start_withinQuota ctx req h hq hcfg
  | stop ctx req => exact Orchestrator.stop_withinQuota ctx req h hown hq
  | complete ctx id report => exact Orchestrator.complete_withinQuota ctx id report hq
  | delete ctx ids => exact Orchestrator.delete_withinQuota ctx ids h hq

/-- Served one at a time by instances whose quota is at most `q`, requests whose broadcast stops
name no nodes keep a settled store within the quota `q`. -/
theorem serveAll_withinQuota {q : Nat} {db : Database} (h : db.Settled) (hq : db.WithinQuota q)
    {visits : List Visit} (hown : ∀ v ∈ visits, v.request.StopsOwnNodes)
    (hcfg : ∀ v ∈ visits, v.ctl.config.maxConcurrentExecutions ≤ q) :
    (serveAll db visits).WithinQuota q :=
  (@serveAll_induction (fun db => db.Settled ∧ db.WithinQuota q)
    (fun v => v.request.StopsOwnNodes ∧ v.ctl.config.maxConcurrentExecutions ≤ q)
    (fun v _ hv hdb => ⟨v.request.serve_settled hv.1 hdb.1,
      v.request.serve_withinQuota hv.1 hv.2 hdb.1 hdb.2⟩)
    visits db (fun v hv => ⟨hown v hv, hcfg v hv⟩) ⟨h, hq⟩).2

/-- From an empty store, requests served one at a time by instances whose quota is at most `q`,
with broadcast stops that name no nodes, never leave a tenant with more than `q` live executions
`RUNNING`, whatever the agents and the sibling instances answer. -/
theorem running_executions_within_quota (db : Database) (visits : List Visit) (q : Nat)
    (hrows : db.executions = []) (hlinks : db.links = [])
    (hown : ∀ v ∈ visits, v.request.StopsOwnNodes)
    (hcfg : ∀ v ∈ visits, v.ctl.config.maxConcurrentExecutions ≤ q) (t : Int) :
    (serveAll db visits).runningCount t ≤ q := by
  have hempty : db.WithinQuota q := by
    intro t
    simp [Database.runningCount, hrows]
  exact serveAll_withinQuota (Database.Settled.empty hrows hlinks) hempty hown hcfg t

/-- An instance with a quota of one running execution per tenant and an agent on node 1 that
accepts every command. -/
def quotaOneInstance : Controller :=
  { config := { maxConcurrentExecutions := 1 },
    router := { routes := [{ node := 1, answers := [.reply ⟨true, 1, "accepted", [], 0⟩] }],
                timeoutMs := 0, tailChars := 0 } }

end LoadDispatch
