import LoadDispatch.Proofs.Stopping

/-!
Requests served one after another over a shared database, and what each can do to the executions and
their links. A property that every request keeps holds after every run (`serveAll_induction`).
-/
namespace LoadDispatch

/-- A request a client makes of the executions. -/
inductive Request where
  | create (new : NewExecution)
  | updateThreads (id : Int) (threads : ThreadConfig)
  | start (ctx : RequestContext) (req : StartRequest)
  | stop (ctx : RequestContext) (req : StopRequest)
  | complete (ctx : RequestContext) (id : Int) (report : CompletionReport)
  | delete (ctx : RequestContext) (ids : List Int)

namespace Request

/-- The database once an instance has served a request; a refused request leaves it as it was. -/
def serve : Request → Site → Database
  | .create new, s => match s.db.create new with
    | .ok (_, db) => db
    | .error _ => s.db
  | .updateThreads id t, s => match s.db.updateThreads id t with
    | .ok db => db
    | .error _ => s.db
  | .start ctx req, s => ((Orchestrator.start ctx req).run.run s).2.db
  | .stop ctx req, s => ((Orchestrator.stop ctx req).run.run s).2.db
  | .complete ctx id report, s => ((Orchestrator.complete ctx id report).run.run s).2.db
  | .delete ctx ids, s => ((Orchestrator.delete ctx ids).run s).2.db

/-- A broadcast stop that names no nodes, so it is sent to the execution's own; every other
request qualifies. -/
def StopsOwnNodes : Request → Prop
  | .stop _ req => req.broadcast = true → req.nodeIds = []
  | _ => True

instance : DecidablePred StopsOwnNodes
  | .stop _ req => inferInstanceAs (Decidable (req.broadcast = true → req.nodeIds = []))
  | .create _ => isTrue trivial
  | .updateThreads _ _ => isTrue trivial
  | .start _ _ => isTrue trivial
  | .complete _ _ _ => isTrue trivial
  | .delete _ _ => isTrue trivial

end Request

/-- A request served by an instance with its settings, routes and siblings, at its clock. -/
structure Visit where
  request : Request
  ctl : Controller
  now : Int
  siblings : Siblings

/-- Requests served one after another over a shared database. -/
def serveAll (db : Database) (visits : List Visit) : Database :=
  visits.foldl (fun db v => v.request.serve ⟨db, v.ctl, v.now, v.siblings⟩) db

@[simp] theorem serveAll_nil (db : Database) : serveAll db [] = db := rfl

@[simp] theorem serveAll_cons (db : Database) (v : Visit) (visits : List Visit) :
    serveAll db (v :: visits) = serveAll (v.request.serve ⟨db, v.ctl, v.now, v.siblings⟩) visits :=
  rfl

/-- A property of the database that every admissible request keeps holds after any run of
admissible requests. -/
theorem serveAll_induction {P : Database → Prop} (Q : Visit → Prop)
    (hstep : ∀ v db, Q v → P db → P (v.request.serve ⟨db, v.ctl, v.now, v.siblings⟩)) :
    ∀ (visits : List Visit) (db : Database), (∀ v ∈ visits, Q v) → P db → P (serveAll db visits)
  | [], _, _, h => h
  | v :: visits, db, hq, h => by
    rw [serveAll_cons]
    exact serveAll_induction Q hstep visits _ (fun w hw => hq w (List.mem_cons_of_mem v hw))
      (hstep v db (hq v List.mem_cons_self) h)

namespace Orchestrator

theorem secondaryRound_db (exec : Execution) (req : StartRequest) (s : Site) :
    (secondaryRound exec req s).2.db = s.db := by
  unfold secondaryRound
  split
  · rfl
  · split
    · rfl
    · split
      · rfl
      · dsimp only
        split <;> rfl

theorem start_relayed_db (ctx : RequestContext) (req : StartRequest) (hb : req.broadcast = false)
    (s : Site) : ((start ctx req).run.run s).2.db = s.db := by
  obtain ⟨L, hL⟩ : ∃ L, (load ctx req.executionId).run.run s = (L, s) :=
    ⟨_, run_load ctx req.executionId s⟩
  unfold start
  simp only [run_bind, hL, hb, Bool.false_eq_true, if_false, Bool.not_false, if_true]
  rcases L with f | exec
  · rfl
  · simp only
    split
    · rfl
    · simp only [run_startSecondary]
      exact secondaryRound_db exec req s


/-- What a round leaves of the executions and their links: a recorded failure, before or after the
execution was marked `SCHEDULING` and unlinked; or, once the tenant was within the quota `q`, the
outcomes recorded and the accepting nodes linked. -/
def RoundLeaves (exec : Execution) (q : Nat) (now : Int) (db db' : Database) : Prop :=
  (∃ f : SchedulingFailure,
    db'.executions = (db.recordSchedule exec.id f.resultingStatus f.outcomes (some f.message)
      now).executions ∧ db'.links = db.links) ∨
  (∃ f : SchedulingFailure,
    db'.executions = ((db.setStatus exec.id .scheduling).recordSchedule exec.id f.resultingStatus
      f.outcomes (some f.message) now).executions ∧ db'.links = (db.clearRunState exec.id).links) ∨
  (∃ os, db.countRunning exec.tenantId exec.id < q ∧
    db'.executions = ((db.setStatus exec.id .scheduling).recordSchedule exec.id
      (judgeDispatch exec.status os).1 os (judgeDispatch exec.status os).2 now).executions ∧
    db'.links = ((db.clearRunState exec.id).addNodes exec.id (NodeOutcome.succeeded os)).links)

theorem primaryRound_quota {ctx : RequestContext} {exec : Execution} {req : StartRequest}
    {s s' : Site} {os : List NodeOutcome} (h : primaryRound ctx exec req s = (.ok os, s')) :
    s.db.countRunning exec.tenantId exec.id < s.ctl.config.maxConcurrentExecutions := by
  unfold primaryRound at h
  split at h
  · cases h
  · omega

theorem primaryRound_leaves (ctx : RequestContext) (exec : Execution) (req : StartRequest)
    (s : Site) :
    RoundLeaves exec s.ctl.config.maxConcurrentExecutions s.now s.db
      (primaryRound ctx exec req s).2.db := by
  rcases h : primaryRound ctx exec req s with ⟨_ | os, s'⟩
  · rcases primaryRound_error h with hdb | hdb
    · exact .inl ⟨_, by rw [hdb], by rw [hdb]; rfl⟩
    · exact .inr (.inl ⟨_, by rw [hdb]; rfl, by rw [hdb]; rfl⟩)
  · obtain ⟨_, _, _, hdb⟩ := primaryRound_ok h
    exact .inr (.inr ⟨os, primaryRound_quota h, by rw [hdb]; rfl, by rw [hdb]; rfl⟩)

/-- A start leaves the executions and their links as they were, or its checks passed on a live
execution that was not running and its round left what `RoundLeaves` says. -/
theorem start_effect (ctx : RequestContext) (req : StartRequest) (s : Site) :
    (((start ctx req).run.run s).2.db.executions = s.db.executions ∧
      ((start ctx req).run.run s).2.db.links = s.db.links) ∨
    ∃ exec, s.db.execution? req.executionId = some exec ∧ exec.status ≠ .running ∧
      RoundLeaves exec s.ctl.config.maxConcurrentExecutions s.now s.db
        ((start ctx req).run.run s).2.db := by
  cases hb : req.broadcast with
  | false =>
    rw [start_relayed_db ctx req hb s]
    exact .inl ⟨rfl, rfl⟩
  | true =>
    rw [run_start_broadcast ctx req hb s]
    rcases hpre : precheck ctx req s with f | exec
    · exact .inl ⟨rfl, rfl⟩
    · obtain ⟨hexec, hrun⟩ := precheck_ok hpre
      simp only
      by_cases hacq : (acquireRestart s exec).1 = true
      · -- the round runs on the database with the lock taken, which differs only in its locks
        obtain ⟨locks, hlocks⟩ := Database.tryAcquire_eq_with_locks s.db (restartKey exec.id)
          (toString exec.id) s.ctl.config.dispatch.lockTtlSecs s.now
        have hacqdb : (acquireRestart s exec).2 = { s.db with locks } := hlocks
        simp only [hacq, if_true, hacqdb]
        exact .inr ⟨exec, hexec, hrun,
          primaryRound_leaves ctx exec req { s with db := { s.db with locks } }⟩
      · have hfail : (acquireRestart s exec).1 = false := by simpa using hacq
        simp only [hfail, Bool.false_eq_true, if_false]
        have hsame : (acquireRestart s exec).2 = s.db := Database.tryAcquire_db_of_false hfail
        rw [hsame]
        exact .inl ⟨rfl, rfl⟩


theorem stop_effect (ctx : RequestContext) (req : StopRequest) (s : Site) :
    (((stop ctx req).run.run s).2.db.executions = s.db.executions ∧
      ((stop ctx req).run.run s).2.db.links = s.db.links) ∨
    ∃ exec, req.broadcast = true ∧ s.db.execution? req.executionId = some exec ∧
      ctx.mayOperate exec.tenantId = true ∧ s.db.lockHolder (restartKey exec.id) s.now = none := by
  unfold stop
  simp only [run_bind, run_load]
  rcases hx : s.db.execution? req.executionId with _ | exec
  · exact .inl ⟨rfl, rfl⟩
  · by_cases hmay : ctx.mayOperate exec.tenantId = true
    · simp only [hmay, if_true]
      cases hb : req.broadcast with
      | false =>
        simp only [Bool.not_false, Bool.true_and, if_true]
        split
        · exact .inl ⟨rfl, rfl⟩
        · simp only [run_bind, run_get]
          split
          · exact .inl ⟨rfl, rfl⟩
          · simp only [run_bind, run_site, run_dispatchLocal, run_pure]
            exact .inl ⟨trivial, trivial⟩
      | true =>
        simp only [Bool.not_true, Bool.false_and, Bool.false_eq_true, if_false, run_bind, run_get]
        by_cases hlock : (s.db.lockHolder (restartKey exec.id) s.now).isSome = true
        · simp only [hlock, if_true, run_bind, run_throw]
          exact .inl ⟨trivial, trivial⟩
        · exact .inr ⟨exec, trivial, rfl, hmay, by simpa using hlock⟩
    · simp only [hmay, Bool.false_eq_true, if_false]
      exact .inl ⟨trivial, trivial⟩


theorem complete_effect (ctx : RequestContext) (id : Int) (report : CompletionReport) (s : Site) :
    (((complete ctx id report).run.run s).2.db.executions = s.db.executions ∧
      ((complete ctx id report).run.run s).2.db.links = s.db.links) ∨
    ∃ exec, s.db.execution? id = some exec ∧ report.status.isTerminal = true ∧
      ((complete ctx id report).run.run s).2.db.executions =
        (s.db.finish id report.status report.failureMessage s.now).executions ∧
      ((complete ctx id report).run.run s).2.db.links = (s.db.removeNodes id exec.nodeIds).links := by
  unfold complete
  simp only [run_bind, run_load]
  rcases hx : s.db.execution? id with _ | exec
  · exact .inl ⟨rfl, rfl⟩
  · by_cases hmay : ctx.mayOperate exec.tenantId = true
    · simp only [hmay, if_true]
      by_cases hterm : report.status.isTerminal = true
      · simp only [hterm, Bool.not_true, Bool.false_eq_true, if_false]
        simp only [run_bind, run_get, run_modifyDb, run_load, run_updateDb]
        refine .inr ⟨exec, rfl, trivial, ?_, ?_⟩ <;>
        · split
          · rename_i heq
            obtain ⟨-, rfl⟩ := Prod.mk.inj heq
            rfl
          · rename_i heq
            obtain ⟨-, rfl⟩ := Prod.mk.inj heq
            rfl
      · have hfalse : report.status.isTerminal = false := by simpa using hterm
        simp only [hfalse, Bool.not_false, if_true, run_bind, run_throw]
        exact .inl ⟨trivial, trivial⟩
    · simp only [hmay, Bool.false_eq_true, if_false]
      exact .inl ⟨trivial, trivial⟩


section Deletes

variable (P : Database → Prop)
  (hstop : ∀ (s : Site) (ctx : RequestContext) (id : Int), P s.db →
    P ((stop ctx { executionId := id }).run.run s).2.db)
  (hsoft : ∀ (db : Database) (id now : Int), P db → P (db.softDelete id now))

include hstop hsoft in
theorem deleteOne_preserves (ctx : RequestContext) (id : Int) (s : Site) (h : P s.db) :
    P ((deleteOne ctx id).run.run s).2.db := by
  unfold deleteOne
  simp only [run_bind, run_load]
  rcases s.db.execution? id with _ | exec
  · exact h
  · by_cases hmay : ctx.mayOperate exec.tenantId = true
    · simp only [hmay, if_true, run_get]
      split
      · exact h
      · split
        · -- a running execution is stopped first, whatever the stop answers
          simp only [run_bind]
          rcases hs : (stop ctx { executionId := id }).run.run s with ⟨_ | _, s'⟩
          · have hs' := hstop s ctx id h
            rw [hs] at hs'
            exact hs'
          · have hs' := hstop s ctx id h
            rw [hs] at hs'
            simp only [run_get, run_modifyDb, run_pure]
            exact hsoft _ _ _ hs'
        · simp only [run_bind, run_get, run_modifyDb, run_pure]
          exact hsoft _ _ _ h
    · simp only [hmay, Bool.false_eq_true, if_false]
      exact h

theorem foldlM_preserves {α β : Type} (f : β → α → StateM Site β)
    (hf : ∀ b a s, P s.db → P ((f b a).run s).2.db) :
    ∀ (l : List α) (b : β) (s : Site), P s.db → P ((l.foldlM f b).run s).2.db
  | [], _, _, h => h
  | a :: l, b, s, h => by
    simp only [List.foldlM_cons, StateT.run_bind]
    exact foldlM_preserves f hf l _ _ (hf b a s h)

include hstop hsoft in
/-- A batch delete is made of stops of whole executions and soft deletes, so it keeps every
property of the database that both keep. -/
theorem delete_preserves (ctx : RequestContext) (ids : List Int) (s : Site) (h : P s.db) :
    P ((delete ctx ids).run s).2.db := by
  unfold delete
  refine foldlM_preserves P _ (fun rep id s hs => ?_) ids _ s h
  have hone := deleteOne_preserves P hstop hsoft ctx id s hs
  simp only [StateT.run_bind]
  rcases hd : (deleteOne ctx id).run.run s with ⟨_ | _ | _, s'⟩ <;> rw [hd] at hone <;> exact hone

end Deletes

end Orchestrator

end LoadDispatch
