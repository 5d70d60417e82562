import Mathlib
import LoadDispatch.Cluster.Orchestrator

/-!
How orchestrator operations run: one equation per building block of `Orch`, so that later proofs
follow a start step by step without unfolding the monad.
-/
namespace LoadDispatch.Orchestrator

variable {α β : Type}

@[simp] theorem run_pure (a : α) (s : Site) : (pure a : Orch α).run.run s = (.ok a, s) := rfl

theorem run_bind (x : Orch α) (f : α → Orch β) (s : Site) :
    (x >>= f).run.run s = match x.run.run s with
      | (.ok a, s') => (f a).run.run s'
      | (.error e, s') => (.error e, s') := by
  simp only [ExceptT.run_bind, StateT.run_bind]
  rcases x.run.run s with ⟨_ | _, s'⟩ <;> rfl

/-- A bind that succeeds ran both halves to success. -/
theorem run_bind_ok {x : Orch α} {f : α → Orch β} {s s' : Site} {b : β}
    (h : (x >>= f).run.run s = (.ok b, s')) :
    ∃ a s₁, x.run.run s = (.ok a, s₁) ∧ (f a).run.run s₁ = (.ok b, s') := by
  rw [run_bind] at h
  split at h
  · rename_i a s₁ hx
    exact ⟨a, s₁, hx, h⟩
  · cases h

/-- A bind that fails failed in its first half, or in its second after the first succeeded. -/
theorem run_bind_error {x : Orch α} {f : α → Orch β} {s s' : Site} {e : SchedulingFailure}
    (h : (x >>= f).run.run s = (.error e, s')) :
    x.run.run s = (.error e, s') ∨ ∃ a s₁, x.run.run s = (.ok a, s₁) ∧ (f a).run.run s₁ = (.error e, s') := by
  rw [run_bind] at h
  split at h
  · rename_i a s₁ hx
    exact .inr ⟨a, s₁, hx, h⟩
  · rename_i e' s₁ hx
    cases h
    exact .inl hx

@[simp] theorem run_throw (f : SchedulingFailure) (s : Site) :
    (throw f : Orch α).run.run s = (.error f, s) := rfl

@[simp] theorem run_get (s : Site) : (get : Orch Site).run.run s = (.ok s, s) := rfl

@[simp] theorem run_set (s t : Site) : (set t : Orch PUnit).run.run s = (.ok ⟨⟩, t) := rfl

@[simp] theorem run_site (x : SiteM α) (s : Site) :
    (site x).run.run s = (.ok (x.run s).1, (x.run s).2) := rfl

@[simp] theorem run_lift (x : SiteM α) (s : Site) :
    (liftM x : Orch α).run.run s = (.ok (x.run s).1, (x.run s).2) := rfl

@[simp] theorem run_liftResult (r : Except SchedulingFailure α) (s : Site) :
    (liftResult r).run.run s = (r, s) := rfl

@[simp] theorem run_modifyDb (f : Database → Database) (s : Site) :
    (modifyDb f).run.run s = (.ok ⟨⟩, { s with db := f s.db }) := rfl

@[simp] theorem run_updateDb (f : Database → α × Database) (s : Site) :
    (updateDb f).run.run s = (.ok (f s.db).1, { s with db := (f s.db).2 }) := rfl

@[simp] theorem site_run_modifyDb (f : Database → Database) (s : Site) :
    (Site.modifyDb f).run s = (⟨⟩, { s with db := f s.db }) := rfl

@[simp] theorem site_run_updateDb (f : Database → α × Database) (s : Site) :
    (Site.updateDb f).run s = ((f s.db).1, { s with db := (f s.db).2 }) := rfl

@[simp] theorem site_run_updateRouter (f : Router → α × Router) (s : Site) :
    (Site.updateRouter f).run s =
      ((f s.ctl.router).1, { s with ctl := { s.ctl with router := (f s.ctl.router).2 } }) := rfl

/-- The site once a failure of a start is recorded: status, outcomes and message of the failure,
one more attempt. -/
def recordAt (s : Site) (id : Int) (f : SchedulingFailure) : Site :=
  { s with db := s.db.recordSchedule id f.resultingStatus f.outcomes (some f.message) s.now }

@[simp] theorem run_recordFailure (id : Int) (f : SchedulingFailure) (s : Site) :
    (recordFailure id f).run s = (f, recordAt s id f) := rfl

/-- A recorded step passes its success on, and records its failure before passing it on. -/
theorem run_recorded (id : Int) (step : Orch α) (s : Site) :
    (recorded id step).run.run s = match step.run.run s with
      | (.ok a, s') => (.ok a, s')
      | (.error f, s') => (.error f, recordAt s' id f) := by
  unfold recorded
  simp only [run_bind, run_site]
  rcases step.run.run s with ⟨_ | _, s'⟩ <;> rfl

theorem run_load (ctx : RequestContext) (id : Int) (s : Site) :
    (load ctx id).run.run s = (match s.db.execution? id with
      | none => .error (.notFound id)
      | some e => if ctx.mayOperate e.tenantId then .ok e else .error (.forbidden id), s) := by
  unfold load
  simp only [run_bind, run_get]
  cases s.db.execution? id with
  | none => rfl
  | some e => by_cases hm : ctx.mayOperate e.tenantId <;> simp [hm] <;> rfl

theorem run_checkQuota (exec : Execution) (s : Site) :
    (checkQuota exec).run.run s =
      (if s.db.countRunning exec.tenantId exec.id ≥ s.ctl.config.maxConcurrentExecutions
        then .error (.quotaExceeded s.ctl.config.maxConcurrentExecutions) else .ok (), s) := by
  unfold checkQuota
  simp only [run_bind, run_get]
  split <;> rfl

theorem run_dispatchLocal (cmds : List (Int × AgentCommand)) (s : Site) :
    (dispatchLocal cmds).run s =
      (((s.ctl.router.dispatchAll cmds).1, (s.ctl.router.dispatchAll cmds).2.1),
        { s with ctl := { s.ctl with router := (s.ctl.router.dispatchAll cmds).2.2 } }) := rfl

/-- Relaying reads the site and changes nothing. -/
theorem run_relayNodes (post : PeerInstance → List Int → Option (List NodeOutcome))
    (nodes : List Int) (s : Site) :
    (relayNodes post nodes).run s =
      (if nodes.isEmpty then []
        else relay post s.ctl.config.cluster.peers s.db.ownership
          (hostPrefix s.ctl.config.controller.instanceId) nodes, s) := by
  unfold relayNodes
  split <;> rfl

/-! ### Selection moves the selector's cursor and nothing else -/

/-- `s'` is `s` with the selector's cursor moved. -/
def CursorMoved (s s' : Site) : Prop := ∃ cursor, s' = { s with ctl := { s.ctl with cursor } }

theorem CursorMoved.refl (s : Site) : CursorMoved s s := ⟨s.ctl.cursor, rfl⟩

theorem CursorMoved.trans {s₁ s₂ s₃ : Site} (h₁ : CursorMoved s₁ s₂) (h₂ : CursorMoved s₂ s₃) :
    CursorMoved s₁ s₃ := by
  obtain ⟨c₁, rfl⟩ := h₁
  obtain ⟨c₂, rfl⟩ := h₂
  exact ⟨c₂, rfl⟩

theorem CursorMoved.router {s s' : Site} (h : CursorMoved s s') : s'.ctl.router = s.ctl.router := by
  obtain ⟨c, rfl⟩ := h
  rfl

theorem CursorMoved.siblings {s s' : Site} (h : CursorMoved s s') : s'.siblings = s.siblings := by
  obtain ⟨c, rfl⟩ := h
  rfl

theorem CursorMoved.db {s s' : Site} (h : CursorMoved s s') : s'.db = s.db := by
  obtain ⟨c, rfl⟩ := h
  rfl

theorem CursorMoved.now {s s' : Site} (h : CursorMoved s s') : s'.now = s.now := by
  obtain ⟨c, rfl⟩ := h
  rfl

theorem CursorMoved.config {s s' : Site} (h : CursorMoved s s') : s'.ctl.config = s.ctl.config := by
  obtain ⟨c, rfl⟩ := h
  rfl

/-- The nodes a selection from a database picks, by id. -/
def Selected (db : Database) (targets : List Int) : Prop :=
  ∃ shuffle now window cursor req picked cursor',
    select shuffle db now window cursor req = (.ok picked, cursor') ∧ targets = picked.map (·.id)

theorem selectWith_run (req : SelectionRequest) (s : Site) :
    CursorMoved s ((selectWith req).run.run s).2 ∧
      ∀ targets, ((selectWith req).run.run s).1 = .ok targets → Selected s.db targets := by
  unfold selectWith
  simp only [run_bind, run_get, run_set]
  rcases hsel : select s.ctl.shuffle s.db s.now
      (wrapI64 (s.ctl.config.dispatch.nodeLivenessSecs * 1000)) s.ctl.cursor req with
    ⟨_ | picked, cursor⟩
  · exact ⟨⟨cursor, rfl⟩, fun _ h => by cases h⟩
  · exact ⟨⟨cursor, rfl⟩, fun t h => by cases h; exact ⟨_, _, _, _, _, picked, cursor, hsel, rfl⟩⟩

theorem selectWith_after {s s₁ : Site} (req : SelectionRequest) (h : CursorMoved s s₁) :
    CursorMoved s ((selectWith req).run.run s₁).2 ∧
      ∀ targets, ((selectWith req).run.run s₁).1 = .ok targets → Selected s.db targets := by
  obtain ⟨hm, hs⟩ := selectWith_run req s₁
  obtain ⟨c, rfl⟩ := h
  exact ⟨CursorMoved.trans ⟨c, rfl⟩ hm, hs⟩

theorem selectTrialNodes_run (exec : Execution) (s : Site) :
    CursorMoved s ((selectTrialNodes exec).run.run s).2 ∧
      ∀ targets, ((selectTrialNodes exec).run.run s).1 = .ok targets → Selected s.db targets := by
  unfold selectTrialNodes
  simp only [run_bind, run_get]
  split
  · split
    · exact ⟨CursorMoved.refl s, fun _ h => by cases h⟩
    · exact selectWith_run _ s
  · exact selectWith_run _ s

/-- A selection of the nodes of a start moves the cursor and nothing else, and what it gives is
picked from the database it saw. -/
theorem selectNodes_run (ctx : RequestContext) (exec : Execution) (requested : List Int)
    (s : Site) :
    CursorMoved s ((selectNodes ctx exec requested).run.run s).2 ∧
      ∀ targets, ((selectNodes ctx exec requested).run.run s).1 = .ok targets →
        Selected s.db targets := by
  unfold selectNodes
  simp only [run_bind, run_get]
  split
  · -- a trial answers with the shared nodes, or refuses, or falls through to the tenant's own
    simp only [run_bind, run_site]
    obtain ⟨hm, hs⟩ := selectTrialNodes_run exec s
    rcases hr : (selectTrialNodes exec).run.run s with ⟨r, s₁⟩
    rw [hr] at hm hs
    split
    · rename_i nodes hok
      exact ⟨hm, fun t h => by cases h; exact hs nodes hok⟩
    · exact ⟨hm, fun _ h => by cases h⟩
    · split
      · exact ⟨hm, fun _ h => by cases h⟩
      · exact selectWith_after _ hm
    · split
      · exact ⟨hm, fun _ h => by cases h⟩
      · exact selectWith_after _ hm
  · exact selectWith_run _ s

/-! ### Selection never asks the siblings -/

theorem selectWith_siblings (req : SelectionRequest) (s : Site) (sib : Siblings) :
    (selectWith req).run.run { s with siblings := sib } =
      (((selectWith req).run.run s).1, { ((selectWith req).run.run s).2 with siblings := sib }) := by
  unfold selectWith
  simp only [run_bind, run_get, run_set]
  rcases select s.ctl.shuffle s.db s.now
      (wrapI64 (s.ctl.config.dispatch.nodeLivenessSecs * 1000)) s.ctl.cursor req with
    ⟨_ | _, c⟩ <;> rfl

theorem selectTrialNodes_siblings (exec : Execution) (s : Site) (sib : Siblings) :
    (selectTrialNodes exec).run.run { s with siblings := sib } =
      (((selectTrialNodes exec).run.run s).1,
        { ((selectTrialNodes exec).run.run s).2 with siblings := sib }) := by
  unfold selectTrialNodes
  simp only [run_bind, run_get]
  split
  · split
    · rfl
    · exact selectWith_siblings _ s sib
  · exact selectWith_siblings _ s sib

/-- A selection runs the same whoever the siblings are, and leaves them as they were. -/
theorem selectNodes_siblings (ctx : RequestContext) (exec : Execution) (requested : List Int)
    (s : Site) (sib : Siblings) :
    (selectNodes ctx exec requested).run.run { s with siblings := sib } =
      (((selectNodes ctx exec requested).run.run s).1,
        { ((selectNodes ctx exec requested).run.run s).2 with siblings := sib }) := by
  unfold selectNodes
  simp only [run_bind, run_get]
  split
  · simp only [run_bind, run_site, selectTrialNodes_siblings]
    rcases (selectTrialNodes exec).run.run s with ⟨r, s₁⟩
    simp only
    split
    · rfl
    · rfl
    · split
      · rfl
      · exact selectWith_siblings _ s₁ sib
    · split
      · rfl
      · exact selectWith_siblings _ s₁ sib
  · exact selectWith_siblings _ s sib

/-! ### Selection never reads the locks -/

theorem select_locks (shuffle : Shuffle) (db : Database) (locks : List LockRow) :
    select shuffle { db with locks } = select shuffle db := rfl

theorem selectWith_locks (req : SelectionRequest) (s : Site) (locks : List LockRow) :
    (selectWith req).run.run { s with db := { s.db with locks } } =
      (((selectWith req).run.run s).1,
        { ((selectWith req).run.run s).2 with
          db := { ((selectWith req).run.run s).2.db with locks } }) := by
  unfold selectWith
  simp only [run_bind, run_get, run_set, select_locks]
  rcases select s.ctl.shuffle s.db s.now
      (wrapI64 (s.ctl.config.dispatch.nodeLivenessSecs * 1000)) s.ctl.cursor req with
    ⟨_ | _, c⟩ <;> rfl

theorem selectTrialNodes_locks (exec : Execution) (s : Site) (locks : List LockRow) :
    (selectTrialNodes exec).run.run { s with db := { s.db with locks } } =
      (((selectTrialNodes exec).run.run s).1,
        { ((selectTrialNodes exec).run.run s).2 with
          db := { ((selectTrialNodes exec).run.run s).2.db with locks } }) := by
  unfold selectTrialNodes
  simp only [run_bind, run_get]
  split
  · split
    · rfl
    · exact selectWith_locks _ s locks
  · exact selectWith_locks _ s locks

/-- A selection runs the same whatever locks are held, and leaves them as they were. -/
theorem selectNodes_locks (ctx : RequestContext) (exec : Execution) (requested : List Int)
    (s : Site) (locks : List LockRow) :
    (selectNodes ctx exec requested).run.run { s with db := { s.db with locks } } =
      (((selectNodes ctx exec requested).run.run s).1,
        { ((selectNodes ctx exec requested).run.run s).2 with
          db := { ((selectNodes ctx exec requested).run.run s).2.db with locks } }) := by
  unfold selectNodes
  simp only [run_bind, run_get]
  split
  · simp only [run_bind, run_site, selectTrialNodes_locks]
    rcases (selectTrialNodes exec).run.run s with ⟨r, s₁⟩
    simp only
    split
    · rfl
    · rfl
    · split
      · rfl
      · exact selectWith_locks _ s₁ locks
    · split
      · rfl
      · exact selectWith_locks _ s₁ locks
  · exact selectWith_locks _ s locks

end LoadDispatch.Orchestrator
