import LoadDispatch.Proofs.Confinement
import LoadDispatch.Proofs.Refusals
import LoadDispatch.Proofs.RelayHops

/-!
Tenant isolation. A user's request reaches only executions of its own tenant, and the relay and node
routes refuse it. Results are kept per script, not per tenant, so a completion may rewrite a result
row that holds another tenant's run of the same script.
-/
namespace LoadDispatch

namespace Database

variable {own : Int → Bool} {db db₁ db' : Database}

/-- What a request of a caller admitting `own` leaves: the other tenants' executions with their
links, samples and cases and every node's registration and switch as they were, and every result but
that of the script of one admitted execution. -/
structure Isolated (own : Int → Bool) (db db' : Database) : Prop where
  keeps : KeepsForeign own db db'
  results : (db'.results = db.results ∧ db'.caseResults = db.caseResults) ∨
    ∃ e : Execution, db.execution? e.id = some e ∧ own e.tenantId = true ∧
      ResultsKeptOutside (e.scriptType, e.resultSourceId) db db'

theorem Spares.isolated (h : Spares own db db') : Isolated own db db' :=
  ⟨h.keeps, .inl ⟨h.results, h.caseResults⟩⟩

theorem Isolated.refl (own : Int → Bool) (db : Database) : Isolated own db db :=
  (Spares.refl own db).isolated

theorem isolated_create {new : NewExecution} {id : Int} (h : db.create new = .ok (id, db'))
    (hown : own new.tenantId = true) : Isolated own db db' := by
  refine ⟨keepsForeign_create h hown, .inl ?_⟩
  unfold create at h
  split at h
  · cases h
  · cases h
    exact ⟨rfl, rfl⟩

theorem isolated_heartbeat (own : Int → Bool) (db : Database) (node now : Int) :
    Isolated own db (db.heartbeat node now).2 :=
  ⟨keepsForeign_heartbeat db own node now, .inl ⟨rfl, rfl⟩⟩

theorem ResultsKeptOutside.of_eq {key : ScriptType × Int} (h : ResultsKeptOutside key db₁ db')
    (hres : db₁.results = db.results) (hcase : db₁.caseResults = db.caseResults) :
    ResultsKeptOutside key db db' :=
  ⟨h.results.trans (by rw [hres]), fun x hx hk => (h.caseResults x (hres ▸ hx) hk).trans (by rw [hcase])⟩

/-- A result of a script that no execution of an admitted tenant runs is kept, with its case
verdicts. -/
theorem Isolated.result_kept (h : Isolated own db db') {x : TestResult} (hx : x ∈ db.results)
    (hother : ∀ e : Execution, db.execution? e.id = some e → own e.tenantId = true →
      (e.scriptType, e.resultSourceId) ≠ x.key) :
    x ∈ db'.results ∧
      db'.caseResults.filter (·.resultId == x.id) = db.caseResults.filter (·.resultId == x.id) := by
  rcases h.results with ⟨hres, hcase⟩ | ⟨e, he, hown, hkept⟩
  · rw [hres, hcase]
    exact ⟨hx, rfl⟩
  · have hk : x.key ≠ (e.scriptType, e.resultSourceId) := fun hk => hother e he hown hk.symm
    have hmem : x ∈ db.results.filter fun y => decide (y.key ≠ (e.scriptType, e.resultSourceId)) :=
      List.mem_filter.mpr ⟨hx, by simpa using hk⟩
    rw [← hkept.results] at hmem
    exact ⟨(List.mem_filter.mp hmem).1, hkept.caseResults x hx hk⟩

end Database

namespace Orchestrator

open Database

variable {ctx : RequestContext} {s : Site}

theorem load_ok_mayOperate {id : Int} {e : Execution} (h : ((load ctx id).run.run s).1 = .ok e) :
    s.db.execution? id = some e ∧ ctx.mayOperate e.tenantId = true := by
  rw [run_load] at h
  split at h
  · cases h
  · rename_i he
    split at h
    · cases h
      exact ⟨he, by assumption⟩
    · cases h

/-- A scheduling round writes only its own execution, and the locks. -/
theorem primaryRound_confined (ctx : RequestContext) (exec : Execution) (req : StartRequest)
    (s : Site) : Confined exec.id s.db (primaryRound ctx exec req s).2.db := by
  rcases h : primaryRound ctx exec req s with ⟨_ | os, s'⟩
  · rcases primaryRound_error h with hdb | hdb <;> rw [hdb]
    · exact confined_recordSchedule ..
    · exact ((confined_setStatus ..).trans (confined_clearRunState ..)).trans
        (confined_recordSchedule ..)
  · obtain ⟨_, _, _, hdb⟩ := primaryRound_ok h
    rw [hdb]
    exact (((confined_setStatus ..).trans (confined_clearRunState ..)).trans
      (confined_addNodes ..)).trans (confined_recordSchedule ..)

theorem start_spares (ctx : RequestContext) (req : StartRequest) (s : Site)
    (hids : (s.db.executions.map (·.id)).Nodup) :
    Spares ctx.mayOperate s.db ((start ctx req).run.run s).2.db := by
  cases hb : req.broadcast with
  | false =>
    rw [start_relayed_db ctx req hb s]
    exact .refl _ _
  | true =>
    rw [run_start_broadcast ctx req hb s]
    rcases hpre : precheck ctx req s with f | exec
    · exact .refl _ _
    · obtain ⟨hexec, hmay, -, -⟩ := precheck_eq_ok_iff.mp hpre
      have hown : s.db.OwnId ctx.mayOperate exec.id := by
        rw [execution?_id hexec]
        exact ownId_of_execution? hids hexec hmay
      apply Spares.of_confined _ hown
      have hacq : Confined exec.id s.db (acquireRestart s exec).2 := confined_tryAcquire ..
      dsimp only
      split
      · exact (hacq.trans (primaryRound_confined ctx exec req
          { s with db := (acquireRestart s exec).2 })).trans (confined_release ..)
      · exact hacq

theorem relayedStopRound_db (exec : Execution) (req : StopRequest) (s : Site) :
    (relayedStopRound exec req s).2.db = s.db := by
  unfold relayedStopRound
  split
  · rfl
  · split <;> rfl

theorem stop_spares (ctx : RequestContext) (req : StopRequest) (s : Site)
    (hids : (s.db.executions.map (·.id)).Nodup) :
    Spares ctx.mayOperate s.db ((stop ctx req).run.run s).2.db := by
  cases hb : req.broadcast with
  | false =>
    rw [run_stop_relayed ctx req hb]
    split
    · exact .refl _ _
    · rw [relayedStopRound_db]
      exact .refl _ _
  | true =>
    rw [run_stop_broadcast ctx req hb]
    rcases hl : ((load ctx req.executionId).run.run s).1 with f | exec
    · exact .refl _ _
    · obtain ⟨hexec, hmay⟩ := load_ok_mayOperate hl
      have hown : s.db.OwnId ctx.mayOperate exec.id := by
        rw [execution?_id hexec]
        exact ownId_of_execution? hids hexec hmay
      dsimp only
      split
      · exact .refl _ _
      · exact .of_confined ((confined_removeNodes ..).trans (confined_settleStop ..)) hown

theorem deleteOne_spares (ctx : RequestContext) (id : Int) (s : Site)
    (hids : (s.db.executions.map (·.id)).Nodup) :
    Spares ctx.mayOperate s.db ((deleteOne ctx id).run.run s).2.db := by
  unfold deleteOne
  simp only [run_bind, run_load]
  rcases hx : s.db.execution? id with _ | exec
  · exact .refl _ _
  · by_cases hmay : ctx.mayOperate exec.tenantId = true
    · have hown : s.db.OwnId ctx.mayOperate id := ownId_of_execution? hids hx hmay
      simp only [hmay, if_true, run_get]
      split
      · exact .refl _ _
      · split
        · -- a running execution is stopped first; the stop keeps the id its caller's
          simp only [run_bind]
          have hstop := stop_spares ctx { executionId := id } s hids
          rcases hs : (stop ctx { executionId := id }).run.run s with ⟨_ | _, s'⟩ <;>
            rw [hs] at hstop
          · exact hstop
          · simp only [run_get, run_modifyDb, run_pure]
            exact hstop.trans
              (.of_confined (confined_softDelete ..) (ownId_of_owners hstop.owners hown))
        · simp only [run_bind, run_get, run_modifyDb, run_pure]
          exact .of_confined (confined_softDelete ..) hown
    · simp only [hmay, Bool.false_eq_true, if_false]
      exact .refl _ _

theorem delete_spares (ctx : RequestContext) (ids : List Int) (s : Site)
    (hids : (s.db.executions.map (·.id)).Nodup) :
    Spares ctx.mayOperate s.db ((delete ctx ids).run s).2.db := by
  unfold delete
  refine foldlM_preserves (fun db => Spares ctx.mayOperate s.db db) _
    (fun rep id s' hs' => ?_) ids _ s (.refl _ _)
  have hone := deleteOne_spares ctx id s' (ids_nodup_of_owners hs'.owners hids)
  simp only [StateT.run_bind]
  rcases hd : (deleteOne ctx id).run.run s' with ⟨_ | _ | _, s''⟩ <;> rw [hd] at hone <;>
    exact hs'.trans hone

/-- A completion writes the rows, links and samples of an execution its caller may operate, and
the result of that execution's script. -/
theorem complete_isolated (ctx : RequestContext) (id : Int) (report : CompletionReport) (s : Site)
    (hids : (s.db.executions.map (·.id)).Nodup) (hrids : (s.db.results.map (·.id)).Nodup) :
    s.db.Isolated ctx.mayOperate ((complete ctx id report).run.run s).2.db := by
  unfold complete
  simp only [run_bind, run_load]
  rcases hx : s.db.execution? id with _ | exec
  · exact .refl _ _
  · by_cases hmay : ctx.mayOperate exec.tenantId = true
    · by_cases hterm : report.status.isTerminal = true
      · obtain ⟨e, he, hrow⟩ := execution?_completed hx ⟨report.summary, report.usage, report.cases⟩
          report.status report.failureMessage s.now exec.nodeIds
        have hfields : e.tenantId = exec.tenantId ∧ e.scriptType = exec.scriptType ∧
            e.resultSourceId = exec.resultSourceId := by
          obtain ⟨row, nodes⟩ := e
          dsimp only at hrow
          subst hrow
          exact ⟨rfl, rfl, rfl⟩
        obtain ⟨hten, htype, hsource⟩ := hfields
        simp only [hmay, if_true, hterm, Bool.not_true, Bool.false_eq_true, if_false, run_bind,
          run_get, run_modifyDb, run_load, he, hten, run_updateDb]
        have hown : s.db.OwnId ctx.mayOperate id := ownId_of_execution? hids hx hmay
        have hconf := ((confined_saveSamples s.db id ⟨report.summary, report.usage, report.cases⟩).trans
          (confined_finish _ id report.status report.failureMessage s.now)).trans
            (confined_removeNodes _ id exec.nodeIds)
        refine ⟨(hconf.keepsForeign hown).trans (keepsForeign_recordResult ..),
          .inr ⟨exec, by rw [execution?_id hx]; exact hx, hmay, ?_⟩⟩
        rw [← htype, ← hsource]
        exact (recordResult_keepsOutside e _ _ _ (by rw [hconf.results]; exact hrids)).of_eq
          hconf.results hconf.caseResults
      · have hfalse : report.status.isTerminal = false := by simpa using hterm
        simp only [hmay, if_true, hfalse, Bool.not_false, run_bind, run_throw]
        exact .refl _ _
    · simp only [hmay, Bool.false_eq_true, if_false]
      exact .refl _ _

end Orchestrator

namespace Api

open Database Orchestrator

/-- An operation that leaves every store with distinct execution ids and distinct result ids
isolated from the tenants `own` does not admit. -/
def Isolates (own : Int → Bool) {α : Type} (h : SiteM α) : Prop :=
  ∀ s : Site, (s.db.executions.map (·.id)).Nodup → (s.db.results.map (·.id)).Nodup →
    s.db.Isolated own (h.run s).2.db

variable {own : Int → Bool} {req : Request} {ctx : RequestContext}

theorem run_bind_read {α β : Type} {m : SiteM α} {f : α → SiteM β} (hm : ∀ s, (m.run s).2 = s)
    (s : Site) : (m >>= f).run s = (f (m.run s).1).run s := by
  show (f (m.run s).1).run (m.run s).2 = _
  rw [hm]

namespace Isolates

variable {α β : Type}

theorem of_db {h : SiteM α} (hdb : ∀ s, (h.run s).2.db = s.db) : Isolates own h :=
  fun s _ _ => by
    rw [hdb]
    exact .refl _ _

theorem pure (own : Int → Bool) (a : α) : Isolates own (Pure.pure a : SiteM α) :=
  .of_db fun _ => rfl

/-- An isolating operation followed by an answer that writes nothing isolates. -/
theorem bind_answer {m : SiteM α} {f : α → SiteM β} (hm : Isolates own m)
    (hf : ∀ a s, ((f a).run s).2 = s) : Isolates own (m >>= f) := by
  intro s hids hrids
  show s.db.Isolated own ((f (m.run s).1).run (m.run s).2).2.db
  rw [hf]
  exact hm s hids hrids

/-- An operation that reads the site first isolates when it does from the site it read. -/
theorem get_bind {f : Site → SiteM α}
    (hf : ∀ s : Site, (s.db.executions.map (·.id)).Nodup → (s.db.results.map (·.id)).Nodup →
      s.db.Isolated own ((f s).run s).2.db) : Isolates own (get >>= f) :=
  hf

theorem withInputs {α : Type} {inputs : Extract α} {handler : α → SiteM Response}
    (h : ∀ a, inputs = .ok a → Isolates own (handler a)) :
    Isolates own (Api.withInputs inputs handler) := by
  unfold Api.withInputs
  cases hin : inputs with
  | error r => exact .pure own r
  | ok a => exact h a hin

end Isolates

theorem context_of_inputs {α : Type} {x : Extract α} {c : RequestContext} {a : α}
    (hctx : context req = .ok ctx) (hin : (do return (← context req, ← x)) = .ok (c, a)) : c = ctx := by
  rw [hctx] at hin
  cases hx : x with
  | error e =>
    rw [hx] at hin
    cases hin
  | ok a' =>
    rw [hx] at hin
    cases hin
    rfl

theorem context_of_inputs₂ {α β : Type} {x : Extract α} {y : Extract β} {c : RequestContext}
    {a : α} {b : β} (hctx : context req = .ok ctx)
    (hin : (do return (← context req, ← x, ← y)) = .ok (c, a, b)) : c = ctx := by
  rw [hctx] at hin
  cases hx : x with
  | error e =>
    rw [hx] at hin
    cases hin
  | ok a' =>
    cases hy : y with
    | error e =>
      rw [hx, hy] at hin
      cases hin
    | ok b' =>
      rw [hx, hy] at hin
      cases hin
      rfl

theorem isolates_withContext {α : Type} {x : Extract α}
    {handler : RequestContext × α → SiteM Response} (hctx : context req = .ok ctx)
    (h : ∀ a, Isolates own (handler (ctx, a))) :
    Isolates own (Api.withInputs (do return (← context req, ← x)) handler) := by
  apply Isolates.withInputs
  rintro ⟨c, a⟩ hin
  rw [context_of_inputs hctx hin]
  exact h a

theorem isolates_withContext₂ {α β : Type} {x : Extract α} {y : Extract β}
    {handler : RequestContext × α × β → SiteM Response} (hctx : context req = .ok ctx)
    (h : ∀ a b, Isolates own (handler (ctx, a, b))) :
    Isolates own (Api.withInputs (do return (← context req, ← x, ← y)) handler) := by
  apply Isolates.withInputs
  rintro ⟨c, a, b⟩ hin
  rw [context_of_inputs₂ hctx hin]
  exact h a b

theorem run_get_bind {β : Type} (f : Site → SiteM β) (s : Site) : (get >>= f).run s = (f s).run s :=
  rfl

theorem run_modify_bind {β : Type} (f : Site → Site) (g : PUnit → SiteM β) (s : Site) :
    (modify f >>= g).run s = (g ⟨⟩).run (f s) :=
  rfl

theorem run_set_bind {β : Type} (s' : Site) (g : PUnit → SiteM β) (s : Site) :
    (set s' >>= g).run s = (g ⟨⟩).run s' :=
  rfl

theorem visible_run (ctx : RequestContext) (id : Int) (s : Site) :
    ((visible ctx id).run s).2 = s := by
  unfold visible
  rw [run_get_bind]
  split
  · split <;> rfl
  · rfl

/-- An execution a caller sees is live and the caller's to operate. -/
theorem visible_ok {id : Int} {s : Site} {e : Execution} (h : ((visible ctx id).run s).1 = .ok e) :
    s.db.execution? id = some e ∧ ctx.mayOperate e.tenantId = true := by
  unfold visible at h
  rw [run_get_bind] at h
  split at h
  · rename_i e' he
    split at h
    · cases h
      exact ⟨he, by assumption⟩
    · cases h
  · cases h

theorem health_isolates : Isolates own health :=
  .of_db fun _ => rfl

theorem submit_isolates (hctx : context req = .ok ctx) : Isolates ctx.mayOperate (submit req) := by
  unfold submit
  refine isolates_withContext hctx fun new => ?_
  dsimp only
  split
  · exact .pure _ _
  · rename_i hmay
    apply Isolates.get_bind
    intro s hids hrids
    rcases hc : s.db.create new with m | ⟨id, db'⟩
    · exact .refl _ _
    · exact isolated_create hc (by simpa using hmay)

theorem startExecution_isolates (hctx : context req = .ok ctx) :
    Isolates ctx.mayOperate (startExecution req) := by
  unfold startExecution
  refine isolates_withContext hctx fun r => ?_
  exact Isolates.bind_answer (fun s hids _ => (start_spares ctx r s hids).isolated) fun _ _ => rfl

theorem stopExecution_isolates (hctx : context req = .ok ctx) :
    Isolates ctx.mayOperate (stopExecution req) := by
  unfold stopExecution
  refine isolates_withContext hctx fun r => ?_
  exact Isolates.bind_answer (fun s hids _ => (stop_spares ctx r s hids).isolated) fun _ _ => rfl

theorem deleteExecutions_isolates (hctx : context req = .ok ctx) :
    Isolates ctx.mayOperate (deleteExecutions req) := by
  unfold deleteExecutions
  refine isolates_withContext hctx fun ids => ?_
  exact Isolates.bind_answer (fun s hids _ => (delete_spares ctx ids s hids).isolated) fun _ _ => rfl

theorem completeExecution_isolates (segment : String) (hctx : context req = .ok ctx) :
    Isolates ctx.mayOperate (completeExecution req segment) := by
  unfold completeExecution
  refine isolates_withContext₂ hctx fun id report => ?_
  refine Isolates.bind_answer (fun s hids hrids => complete_isolated ctx id report s hids hrids) ?_
  intro r s
  cases r <;> rfl

theorem showExecution_isolates (segment : String) (hctx : context req = .ok ctx) :
    Isolates ctx.mayOperate (showExecution req segment) := by
  unfold showExecution
  refine isolates_withContext hctx fun id => .of_db fun s => ?_
  rw [run_bind_read (visible_run ctx id)]
  split <;> rfl

theorem executionResult_isolates (segment : String) (hctx : context req = .ok ctx) :
    Isolates ctx.mayOperate (executionResult req segment) := by
  unfold executionResult
  refine isolates_withContext hctx fun id => .of_db fun s => ?_
  rw [run_bind_read (visible_run ctx id)]
  split
  · rfl
  · rw [run_get_bind]
    dsimp only
    split <;> rfl

theorem overrideThreads_isolates (segment : String) (hctx : context req = .ok ctx) :
    Isolates ctx.mayOperate (overrideThreads req segment) := by
  unfold overrideThreads
  refine isolates_withContext₂ hctx fun id threads => ?_
  intro s hids hrids
  rw [run_bind_read (visible_run ctx id)]
  rcases hv : ((visible ctx id).run s).1 with r | e
  · exact .refl _ _
  · obtain ⟨hx, hmay⟩ := visible_ok hv
    dsimp only
    split
    · exact .refl _ _
    · rw [run_get_bind]
      rcases hu : s.db.updateThreads id threads with m | db'
      · exact .refl _ _
      · -- the new thread configuration is written into the caller's own row
        have hown := ownId_of_execution? hids hx hmay
        have hiso := (Spares.of_confined (confined_updateThreads hu) hown).isolated
        dsimp only
        rw [run_modify_bind]
        split <;> exact hiso

theorem listNodes_isolates : Isolates own (listNodes req) :=
  Isolates.withInputs fun _ _ => .of_db fun _ => rfl

theorem nodeHeartbeat_isolates (segment : String) : Isolates own (nodeHeartbeat segment) := by
  unfold nodeHeartbeat
  refine Isolates.withInputs fun id _ => ?_
  intro s _ _
  rw [run_get_bind]
  rcases hh : s.db.heartbeat id s.now with ⟨known, db'⟩
  have hdb : db' = (s.db.heartbeat id s.now).2 := by rw [hh]
  dsimp only
  rw [run_set_bind, hdb]
  split <;> exact isolated_heartbeat _ _ _ _

/-- Every rejection of an input answers an error status. -/
def Rejects {α : Type} (x : Extract α) : Prop := ∀ r, x = .error r → 400 ≤ r.status

namespace Rejects

theorem pure {α : Type} (a : α) : Rejects (Pure.pure a : Extract α) :=
  fun _ h => by cases h

theorem bind {α β : Type} {x : Extract α} {f : α → Extract β} (hx : Rejects x)
    (hf : ∀ a, Rejects (f a)) : Rejects (x >>= f) := by
  intro r h
  cases hx' : x with
  | error e =>
    rw [hx'] at h
    cases h
    exact hx _ hx'
  | ok a =>
    rw [hx'] at h
    exact hf a r h

end Rejects

theorem rejects_context (req : Request) : Rejects (context req) := by
  intro r h
  obtain ⟨m, -, rfl⟩ := mapError_error h
  dsimp only
  omega

theorem rejects_pathId (segment : String) : Rejects (pathId segment) := by
  intro r h
  unfold pathId at h
  split at h
  · split at h
    · cases h
    · cases h
      dsimp only
      omega
  · cases h
    dsimp only
    omega

theorem rejects_jsonBody {α : Type} (req : Request) (shape : Shape) (d : Decoder α) :
    Rejects (jsonBody req shape d) := by
  intro r h
  unfold jsonBody at h
  dsimp only at h
  split_ifs at h
  · cases h
    dsimp only
    omega
  · split at h
    · cases h
      dsimp only
      omega
    · cases h
      dsimp only
      omega
    · obtain ⟨m, -, rfl⟩ := mapError_error h
      dsimp only
      omega

/-- A handler that refuses: it answers an error status and leaves the site as it was. -/
def Refuses (h : SiteM Response) : Prop := ∀ s, (h.run s).2 = s ∧ 400 ≤ (h.run s).1.status

namespace Refuses

theorem pure {r : Response} (hr : 400 ≤ r.status) : Refuses (Pure.pure r : SiteM Response) :=
  fun _ => ⟨rfl, hr⟩

theorem isolates {h : SiteM Response} (hr : Refuses h) : Isolates own h :=
  .of_db fun s => by rw [(hr s).1]

theorem withInputs {α : Type} {inputs : Extract α} {handler : α → SiteM Response}
    (hin : Rejects inputs) (h : ∀ a, inputs = .ok a → Refuses (handler a)) :
    Refuses (Api.withInputs inputs handler) := by
  unfold Api.withInputs
  cases hi : inputs with
  | error r => exact .pure (hin r hi)
  | ok a => exact h a hi

theorem bind_status {m : SiteM Response} {f : Response → Response} (hm : Refuses m)
    (hf : ∀ r, (f r).status = r.status) : Refuses (m >>= fun r => Pure.pure (f r)) := by
  intro s
  show ((Pure.pure (f (m.run s).1) : SiteM Response).run (m.run s).2).2 = s ∧
    400 ≤ ((Pure.pure (f (m.run s).1) : SiteM Response).run (m.run s).2).1.status
  exact ⟨(hm s).1, (hf _).symm ▸ (hm s).2⟩

end Refuses

theorem refuses_withContext {α : Type} {x : Extract α}
    {handler : RequestContext × α → SiteM Response} (hctx : context req = .ok ctx)
    (hx : Rejects x) (h : ∀ a, Refuses (handler (ctx, a))) :
    Refuses (Api.withInputs (do return (← context req, ← x)) handler) := by
  refine Refuses.withInputs ((rejects_context req).bind fun _ => hx.bind fun _ => .pure _) ?_
  rintro ⟨c, a⟩ hin
  rw [context_of_inputs hctx hin]
  exact h a

theorem refuses_withContext₂ {α β : Type} {x : Extract α} {y : Extract β}
    {handler : RequestContext × α × β → SiteM Response} (hctx : context req = .ok ctx)
    (hx : Rejects x) (hy : Rejects y) (h : ∀ a b, Refuses (handler (ctx, a, b))) :
    Refuses (Api.withInputs (do return (← context req, ← x, ← y)) handler) := by
  refine Refuses.withInputs
    ((rejects_context req).bind fun _ => hx.bind fun _ => hy.bind fun _ => .pure _) ?_
  rintro ⟨c, a, b⟩ hin
  rw [context_of_inputs₂ hctx hin]
  exact h a b

section User

variable (huser : ctx.isSystem = false)
include huser

/-- A relay is refused to a user. -/
theorem relayed_refuses {α : Type} {shape : Shape} {d : Decoder α} {targets : α → List Int}
    {run : RequestContext → α → Orchestrator.Orch (List NodeOutcome)}
    (hctx : context req = .ok ctx) : Refuses (relayed req shape d targets run) := by
  unfold relayed
  refine refuses_withContext hctx (rejects_jsonBody _ _ _) fun r => ?_
  simp only [huser, Bool.not_false, if_true]
  exact .pure (by decide)

theorem registerNode_refuses (hctx : context req = .ok ctx) : Refuses (registerNode req) := by
  unfold registerNode
  refine refuses_withContext hctx (rejects_jsonBody _ _ _) fun reg => ?_
  simp only [huser, Bool.not_false, if_true]
  exact .pure (by decide)

theorem setNodeEnabled_refuses (segment : String) (hctx : context req = .ok ctx) :
    Refuses (setNodeEnabled req segment) := by
  unfold setNodeEnabled
  refine refuses_withContext₂ hctx (rejects_pathId _) (rejects_jsonBody _ _ _) fun id enabled => ?_
  simp only [huser, Bool.not_false, if_true]
  exact .pure (by decide)

end User

/-- The segments of a request's path under the API prefix, as the router reads them. -/
def apiSegments (req : Request) : Option (List String) :=
  match ((req.path.splitOn "?").headD "").splitOn "/" with
  | "" :: "api" :: "v1" :: rest => some rest
  | _ => none

/-- The routes only the system principal may use: the relays, node registration and node
switches. -/
def systemRoute : List String → Bool
  | ["relay", _] => true
  | ["nodes"] => true
  | ["nodes", _, "enabled"] => true
  | _ => false

section User

variable (hctx : context req = .ok ctx) (huser : ctx.isSystem = false)
include hctx huser

/-- Every handler of every route keeps a user to its tenant. -/
theorem route_isolates {segs : List String} {methods : Route} (h : route req segs = some methods) :
    ∀ p ∈ methods, Isolates ctx.mayOperate p.2 := by
  unfold route at h
  -- one goal per handler of the table, in its order; an empty id routes nowhere
  split at h <;> (try split at h) <;> cases h <;> intro p hp <;>
    simp only [List.mem_cons, List.not_mem_nil, or_false] at hp <;> (try rcases hp with rfl | rfl)
  · exact health_isolates
  · exact submit_isolates hctx
  · exact startExecution_isolates hctx
  · exact stopExecution_isolates hctx
  · exact deleteExecutions_isolates hctx
  · exact (relayed_refuses huser hctx).isolates
  · exact (relayed_refuses huser hctx).isolates
  · exact listNodes_isolates
  · exact (registerNode_refuses huser hctx).isolates
  · exact showExecution_isolates _ hctx
  · exact overrideThreads_isolates _ hctx
  · exact completeExecution_isolates _ hctx
  · exact executionResult_isolates _ hctx
  · exact nodeHeartbeat_isolates _
  · exact (setNodeEnabled_refuses huser _ hctx).isolates

theorem route_refuses {segs : List String} {methods : Route} (h : route req segs = some methods)
    (hsys : systemRoute segs = true) {handler : SiteM Response}
    (hpost : ("POST", handler) ∈ methods) : Refuses handler := by
  unfold route at h
  split at h <;> (try split at h) <;> cases h <;> simp [systemRoute] at hsys hpost <;> subst hpost
  · exact relayed_refuses huser hctx
  · exact relayed_refuses huser hctx
  · exact registerNode_refuses huser hctx
  · exact setNodeEnabled_refuses huser _ hctx

end User

/-- Answering a request runs at most one handler of its route, and reshapes only the body of its
answer. -/
theorem handle_isolates
    (hroute : ∀ segs methods, route req segs = some methods → ∀ p ∈ methods, Isolates own p.2) :
    Isolates own (handle req) := by
  unfold handle
  dsimp only
  split
  · exact .pure _ _
  · rename_i methods hfound
    obtain ⟨segs, hsegs⟩ : ∃ segs, route req segs = some methods := by
      split at hfound
      · exact ⟨_, hfound⟩
      · cases hfound
    split
    · exact .pure _ _
    · rename_i handler hfind
      exact Isolates.bind_answer (hroute segs methods hsegs _ (List.mem_of_find?_eq_some hfind))
        fun _ _ => rfl

theorem handle_refuses {rest : List String} (hsegs : apiSegments req = some rest)
    (hpost : req.method = "POST")
    (hroute : ∀ methods, route req rest = some methods → ∀ h, ("POST", h) ∈ methods → Refuses h) :
    Refuses (handle req) := by
  unfold handle
  dsimp only
  split
  · exact .pure (by decide)
  · rename_i methods hfound
    have hmethods : route req rest = some methods := by
      unfold apiSegments at hsegs
      split at hfound
      · rename_i rest' hsplit
        rw [hsplit] at hsegs
        cases hsegs
        exact hfound
      · cases hfound
    split
    · exact .pure (by decide)
    · rename_i m handler hfind
      have hm : m = "POST" := by
        have := List.find?_some hfind
        simpa [hpost] using this
      subst hm
      exact (hroute methods hmethods handler (List.mem_of_find?_eq_some hfind)).bind_status
        fun r => by split <;> rfl

/-- A request of a user reaches only its tenant: on every store with distinct execution and result
ids it leaves the other tenants' executions, links, samples and cases and every node as they were,
changes results only under the script of one of its tenant's executions, and is refused by the
system routes. -/
theorem users_reach_only_their_tenant (req : Request) (ctx : RequestContext)
    (hctx : context req = .ok ctx) (huser : ctx.isSystem = false) :
    Isolates ctx.mayOperate (handle req) ∧
      ∀ rest, apiSegments req = some rest → systemRoute rest = true → req.method = "POST" →
        Refuses (handle req) :=
  ⟨handle_isolates fun _ _ => route_isolates hctx huser,
    fun _ hsegs hsys hpost => handle_refuses hsegs hpost fun _ h _ => route_refuses hctx huser h hsys⟩

theorem Except.eq_ok_of_toOption {ε α : Type} {x : Except ε α} {a : α} (h : x.toOption = some a) :
    x = .ok a := by
  cases x <;> simp_all [Except.toOption]

def tenantTwoUser : RequestContext := ⟨.user 9, some 2, false⟩

def tenantTwoCompletion : Request :=
  { method := "POST", path := "/api/v1/executions/2/complete",
    headers := ⟨[("x-principal", "user:9"), ("x-tenant-id", "2"), ("content-type", "application/json")]⟩,
    body := some "\x7b\"status\":\"FAILED\",\"failure_message\":\"boom\"\x7d" }

theorem tenantTwoCompletion_reaches_only_its_tenant :
    context tenantTwoCompletion = .ok tenantTwoUser ∧ tenantTwoUser.isSystem = false ∧
      (Isolates tenantTwoUser.mayOperate (handle tenantTwoCompletion) ∧
        ∀ rest, apiSegments tenantTwoCompletion = some rest → systemRoute rest = true →
          tenantTwoCompletion.method = "POST" → Refuses (handle tenantTwoCompletion)) :=
  have hctx : context tenantTwoCompletion = .ok tenantTwoUser :=
    Except.eq_ok_of_toOption (by decide +kernel)
  ⟨hctx, rfl, users_reach_only_their_tenant _ _ hctx rfl⟩

end Api

def scriptFiveRun (tenant : Int) : NewExecution :=
  { tenantId := tenant, scriptType := .functional, scriptSourceId := some 5, script := "{}",
    threads := { threadCount := 1, iterationCount := 1 } }

def twoTenantsOneScript : Site :=
  let visit (r : LoadDispatch.Request) : Visit := ⟨r, acceptingInstance, 1750000000000, .unreachable⟩
  ⟨serveAll {} [visit (.create (scriptFiveRun 1)), visit (.create (scriptFiveRun 2)),
    visit (.complete .system 1 { status := .completed })], acceptingInstance, 1750000060000,
    .unreachable⟩

/-- Tenant 2's user completes its own execution, and the result row of tenant 1's run of the same
script becomes that of tenant 2's run, with two runs counted. -/
theorem tenantTwo_completion_rewrites_tenantOne_result :
    Api.route Api.tenantTwoCompletion ["executions", "2", "complete"] =
        some [("POST", Api.completeExecution Api.tenantTwoCompletion "2")] ∧
      ((Api.context Api.tenantTwoCompletion).toOption.map fun c => c.mayOperate 1) = some false ∧
      (twoTenantsOneScript.db.execution? 1).map (·.tenantId) = some 1 ∧
      twoTenantsOneScript.db.results.map (fun r => (r.id, r.executionId, r.timesRun)) = [(1, 1, 1)] ∧
      ((Api.completeExecution Api.tenantTwoCompletion "2").run twoTenantsOneScript).2.db.results.map
        (fun r => (r.id, r.executionId, r.timesRun)) = [(1, 2, 2)] := by
  refine ⟨rfl, ?_⟩
  decide +kernel

end LoadDispatch
