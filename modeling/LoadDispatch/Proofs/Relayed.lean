import LoadDispatch.Proofs.Routes
import LoadDispatch.Proofs.Serving
import LoadDispatch.Api.Routes

/-!
Requests relayed by a primary, starts and stops that do not broadcast, run only the named targets
this instance reaches. They write nothing, whatever the agents answer, and answer every named node
once or fail with one outcome per named node.
-/
namespace LoadDispatch

/-- What a relay endpoint may answer: each named node answered once by the relayed request, or, for
a failure other than a failed dispatch, one scheduling outcome per node. -/
def RelayAnswer (r : Router) (nodes : List Int) (os : List NodeOutcome) : Prop :=
  AnswersEachNode r nodes os ∨
    ∃ f : SchedulingFailure, os = nodes.map fun n => NodeOutcome.failed (some n) .scheduling f.message

theorem RelayAnswer.perm {r : Router} {nodes : List Int} {os : List NodeOutcome}
    (h : RelayAnswer r nodes os) : (os.map (·.nodeId)).Perm (nodes.map some) := by
  rcases h with h | ⟨f, rfl⟩
  · exact h.1
  · simp [List.map_map, Function.comp_def, NodeOutcome.failed]

theorem SchedulingFailure.nodeOutcomes_relayAnswer {r : Router} {nodes : List Int}
    (f : SchedulingFailure) (h : ∀ os, f = .dispatchFailed os → AnswersEachNode r nodes os) :
    RelayAnswer r nodes (f.nodeOutcomes nodes) := by
  cases f with
  | dispatchFailed os => exact .inl (h os rfl)
  | _ => exact .inr ⟨_, rfl⟩

/-- A relay handler, once its caller is the system principal and its body reads, answers what the
relayed request gives: its outcomes, or its failure's outcomes per named node. -/
theorem Api.run_relayed {α : Type} {req : Api.Request} {shape : Shape} {d : Decoder α}
    {targets : α → List Int} {run : RequestContext → α → Orchestrator.Orch (List NodeOutcome)}
    {ctx : RequestContext} {a : α} (hctx : Api.context req = .ok ctx) (hsys : ctx.isSystem = true)
    (hbody : Api.jsonBody req shape d = .ok a) (s : Site) :
    (Api.relayed req shape d targets run).run s = match (run ctx a).run.run s with
      | (.ok os, s') => (Api.ok (Json.list NodeOutcome.toJson os), s')
      | (.error f, s') => (Api.ok (Json.list NodeOutcome.toJson (f.nodeOutcomes (targets a))), s') := by
  simp only [Api.relayed, Api.withInputs, hctx, hbody]
  simp only [bind, Except.bind, pure, Except.pure, hsys, Bool.not_true, Bool.false_eq_true, if_false]
  rcases h : (run ctx a).run.run s with ⟨_ | _, s'⟩ <;>
    simp only [StateT.run, StateT.bind] at h ⊢ <;> rw [h] <;> rfl

namespace Orchestrator

variable {ctx : RequestContext} {s : Site}

theorem run_start_relayed (ctx : RequestContext) (req : StartRequest) (hb : req.broadcast = false)
    (s : Site) :
    (start ctx req).run.run s = match ((load ctx req.executionId).run.run s).1 with
      | .error f => (.error f, s)
      | .ok exec =>
        if req.nodeIds.isEmpty then (.error (.missingTargets exec.id), s)
        else secondaryRound exec req s := by
  obtain ⟨L, hL⟩ : ∃ L, (load ctx req.executionId).run.run s = (L, s) :=
    ⟨_, run_load ctx req.executionId s⟩
  unfold start
  simp only [run_bind, hL, hb, Bool.false_eq_true, if_false, Bool.not_false, if_true]
  rcases L with f | exec
  · rfl
  · simp only
    split
    · rfl
    · simp only [run_startSecondary]

/-- A relayed stop once its execution is loaded: refused without targets or while a start holds
the lock; otherwise the stop commands go to the named targets and the unrouted ones are answered
`router_not_found`. -/
def relayedStopRound (exec : Execution) (req : StopRequest) (s : Site) :
    Except SchedulingFailure (List NodeOutcome) × Site :=
  if req.nodeIds.isEmpty then (.error (.missingTargets exec.id), s)
  else if (s.db.lockHolder (restartKey exec.id) s.now).isSome then (.error (.inFlight exec.id), s)
  else
    let d := s.ctl.router.dispatchAll (req.nodeIds.map fun n => (n, AgentCommand.stopOf exec.id))
    (.ok (d.1 ++ d.2.1.map NodeOutcome.routerNotFound), { s with ctl := { s.ctl with router := d.2.2 } })

theorem run_stop_relayed (ctx : RequestContext) (req : StopRequest) (hb : req.broadcast = false)
    (s : Site) :
    (stop ctx req).run.run s = match ((load ctx req.executionId).run.run s).1 with
      | .error f => (.error f, s)
      | .ok exec => relayedStopRound exec req s := by
  obtain ⟨L, hL⟩ : ∃ L, (load ctx req.executionId).run.run s = (L, s) :=
    ⟨_, run_load ctx req.executionId s⟩
  unfold stop relayedStopRound
  simp only [run_bind, hL, hb, Bool.not_false, Bool.true_and]
  rcases L with f | exec
  · rfl
  · simp only
    split
    · rfl
    · simp only [run_bind, run_get]
      split
      · rfl
      · simp only [run_bind, run_site, run_dispatchLocal, if_true, run_pure]

theorem secondaryRound_ok {exec : Execution} {req : StartRequest} {os : List NodeOutcome}
    (hk : s.ctl.router.Keyed) (h : (secondaryRound exec req s).1 = .ok os) :
    AnswersEachNode s.ctl.router req.nodeIds os := by
  unfold secondaryRound at h
  split at h
  · cases h
  · split at h
    · cases h
    · split at h
      · cases h
      · rename_i cmds hc
        dsimp only at h
        split at h
        · cases h
        · cases h
          rw [← (shardCommands_ok hc).1]
          exact Router.answersEachNode_dispatchAll hk cmds

theorem secondaryRound_error {exec : Execution} {req : StartRequest} {f : SchedulingFailure}
    (hk : s.ctl.router.Keyed) (h : (secondaryRound exec req s).1 = .error f) :
    RelayAnswer s.ctl.router req.nodeIds (f.nodeOutcomes req.nodeIds) := by
  refine f.nodeOutcomes_relayAnswer fun os hos => ?_
  subst hos
  unfold secondaryRound at h
  split at h
  · rename_i hp
    cases h
    obtain ⟨e, -, he⟩ := mapError_error hp
    cases he
  · split at h
    · cases h
    · split at h
      · rename_i hc
        cases h
        obtain ⟨e, -, he⟩ := mapError_error hc
        cases he
      · rename_i cmds hc
        dsimp only at h
        split at h
        · cases h
          rw [← (shardCommands_ok hc).1]
          exact Router.answersEachNode_dispatchAll hk cmds
        · cases h

theorem load_error {ctx : RequestContext} {id : Int} {f : SchedulingFailure}
    (h : ((load ctx id).run.run s).1 = .error f) : f = .notFound id ∨ f = .forbidden id := by
  rw [run_load] at h
  split at h
  · cases h
    exact .inl rfl
  · split at h
    · cases h
    · cases h
      exact .inr rfl

theorem load_error_relayAnswer {ctx : RequestContext} {id : Int} {f : SchedulingFailure} (r : Router)
    (nodes : List Int) (h : ((load ctx id).run.run s).1 = .error f) :
    RelayAnswer r nodes (f.nodeOutcomes nodes) := by
  refine f.nodeOutcomes_relayAnswer fun os hos => ?_
  rcases load_error h with hf | hf <;> rw [hf] at hos <;> cases hos

/-- A relayed start writes nothing; it answers each named node once or fails, and every failure
stands for one outcome per named node. -/
theorem start_relayed_answers (ctx : RequestContext) (req : StartRequest) (hb : req.broadcast = false)
    (hk : s.ctl.router.Keyed) :
    ((start ctx req).run.run s).2.db = s.db ∧
      (∀ os, ((start ctx req).run.run s).1 = .ok os → AnswersEachNode s.ctl.router req.nodeIds os) ∧
      (∀ f, ((start ctx req).run.run s).1 = .error f →
        RelayAnswer s.ctl.router req.nodeIds (f.nodeOutcomes req.nodeIds)) := by
  refine ⟨start_relayed_db ctx req hb s, fun os h => ?_, fun f h => ?_⟩
  · rw [run_start_relayed ctx req hb s] at h
    split at h
    · cases h
    · split at h
      · cases h
      · exact secondaryRound_ok hk h
  · rw [run_start_relayed ctx req hb s] at h
    split at h
    · rename_i hload
      cases h
      exact load_error_relayAnswer _ _ hload
    · split at h
      · cases h
        exact .inr ⟨_, rfl⟩
      · exact secondaryRound_error hk h

/-- A relayed stop writes nothing; it answers each named node once or fails, refused, before any
node is asked. -/
theorem stop_relayed_answers (ctx : RequestContext) (req : StopRequest) (hb : req.broadcast = false)
    (hk : s.ctl.router.Keyed) :
    ((stop ctx req).run.run s).2.db = s.db ∧
      (∀ os, ((stop ctx req).run.run s).1 = .ok os → AnswersEachNode s.ctl.router req.nodeIds os) ∧
      (∀ f, ((stop ctx req).run.run s).1 = .error f →
        RelayAnswer s.ctl.router req.nodeIds (f.nodeOutcomes req.nodeIds)) := by
  rw [run_stop_relayed ctx req hb s]
  split
  · rename_i f hload
    refine ⟨rfl, fun os h => ?_, fun f' h => ?_⟩
    · cases h
    · cases h
      exact load_error_relayAnswer _ _ hload
  · rename_i exec _
    unfold relayedStopRound
    split
    · refine ⟨rfl, fun os h => ?_, fun f h => ?_⟩
      · cases h
      · cases h
        exact .inr ⟨_, rfl⟩
    · split
      · refine ⟨rfl, fun os h => ?_, fun f h => ?_⟩
        · cases h
        · cases h
          exact .inr ⟨_, rfl⟩
      · -- the stop commands name the targets in order
        have hans := Router.answersEachNode_dispatchAll hk
          (req.nodeIds.map fun n => (n, AgentCommand.stopOf exec.id))
        rw [List.map_map] at hans
        refine ⟨rfl, fun os h => ?_, fun f h => ?_⟩
        · cases h
          simpa [Function.comp_def] using hans
        · cases h

/-- What the relay endpoint of a request kind answers: one outcome per named node, the relayed
request's own or its failure's, with the database left as it was. -/
def RelayEndpointAnswers (handler : SiteM Api.Response) (s : Site) (nodes : List Int) : Prop :=
  ∃ os, (handler.run s).1 = Api.ok (Json.list NodeOutcome.toJson os) ∧ (handler.run s).2.db = s.db ∧
    RelayAnswer s.ctl.router nodes os

theorem relayed_endpointAnswers {α : Type} {req : Api.Request} {shape : Shape} {d : Decoder α}
    {targets : α → List Int} {run : RequestContext → α → Orch (List NodeOutcome)} {a : α}
    (hctx : Api.context req = .ok ctx) (hsys : ctx.isSystem = true)
    (hbody : Api.jsonBody req shape d = .ok a) (hdb : ((run ctx a).run.run s).2.db = s.db)
    (hok : ∀ os, ((run ctx a).run.run s).1 = .ok os → AnswersEachNode s.ctl.router (targets a) os)
    (herr : ∀ f, ((run ctx a).run.run s).1 = .error f →
      RelayAnswer s.ctl.router (targets a) (f.nodeOutcomes (targets a))) :
    RelayEndpointAnswers (Api.relayed req shape d targets run) s (targets a) := by
  unfold RelayEndpointAnswers
  rw [Api.run_relayed hctx hsys hbody]
  rcases h : (run ctx a).run.run s with ⟨_ | os, s'⟩ <;> rw [h] at hdb hok herr
  · exact ⟨_, rfl, hdb, herr _ rfl⟩
  · exact ⟨os, rfl, hdb, .inl (hok os rfl)⟩

theorem relayStart_answers_each_node {req : Api.Request} {r : StartRequest}
    (hctx : Api.context req = .ok ctx) (hsys : ctx.isSystem = true)
    (hbody : Api.jsonBody req StartRequest.shape StartRequest.decode = .ok r) (hk : s.ctl.router.Keyed) :
    ∃ handler, Api.route req ["relay", "start"] = some [("POST", handler)] ∧
      RelayEndpointAnswers handler s r.nodeIds := by
  obtain ⟨hdb, hok, herr⟩ := start_relayed_answers ctx { r with broadcast := false } rfl hk
  exact ⟨_, rfl, relayed_endpointAnswers hctx hsys hbody hdb hok herr⟩

theorem relayStop_answers_each_node {req : Api.Request} {r : StopRequest}
    (hctx : Api.context req = .ok ctx) (hsys : ctx.isSystem = true)
    (hbody : Api.jsonBody req StopRequest.shape StopRequest.decode = .ok r) (hk : s.ctl.router.Keyed) :
    ∃ handler, Api.route req ["relay", "stop"] = some [("POST", handler)] ∧
      RelayEndpointAnswers handler s r.nodeIds := by
  obtain ⟨hdb, hok, herr⟩ := stop_relayed_answers ctx { r with broadcast := false } rfl hk
  exact ⟨_, rfl, relayed_endpointAnswers hctx hsys hbody hdb hok herr⟩

/-- Relayed requests never write: on an instance whose routes name each node at most once, a start
or stop that does not broadcast leaves the database as it was and answers each named node once,
`router_not_found` where it has no open route, or fails. The relay endpoints answer the system
principal with one outcome per named node. -/
theorem relayed_requests_never_write (ctx : RequestContext) (s : Site) (hk : s.ctl.router.Keyed) :
    (∀ req : StartRequest, req.broadcast = false →
      ((start ctx req).run.run s).2.db = s.db ∧
      (∀ os, ((start ctx req).run.run s).1 = .ok os → AnswersEachNode s.ctl.router req.nodeIds os) ∧
      (∀ f, ((start ctx req).run.run s).1 = .error f →
        RelayAnswer s.ctl.router req.nodeIds (f.nodeOutcomes req.nodeIds))) ∧
    (∀ req : StopRequest, req.broadcast = false →
      ((stop ctx req).run.run s).2.db = s.db ∧
      (∀ os, ((stop ctx req).run.run s).1 = .ok os → AnswersEachNode s.ctl.router req.nodeIds os) ∧
      (∀ f, ((stop ctx req).run.run s).1 = .error f →
        RelayAnswer s.ctl.router req.nodeIds (f.nodeOutcomes req.nodeIds))) ∧
    (ctx.isSystem = true → ∀ req : Api.Request, Api.context req = .ok ctx →
      (∀ r : StartRequest, Api.jsonBody req StartRequest.shape StartRequest.decode = .ok r →
        ∃ handler, Api.route req ["relay", "start"] = some [("POST", handler)] ∧
          RelayEndpointAnswers handler s r.nodeIds) ∧
      (∀ r : StopRequest, Api.jsonBody req StopRequest.shape StopRequest.decode = .ok r →
        ∃ handler, Api.route req ["relay", "stop"] = some [("POST", handler)] ∧
          RelayEndpointAnswers handler s r.nodeIds)) :=
  ⟨fun req hb => start_relayed_answers ctx req hb hk,
    fun req hb => stop_relayed_answers ctx req hb hk,
    fun hsys _ hctx => ⟨fun _ hbody => relayStart_answers_each_node hctx hsys hbody hk,
      fun _ hbody => relayStop_answers_each_node hctx hsys hbody hk⟩⟩

/-- A relayed stop of the running execution of `twoNodeStopSite`, naming node 5 and an unknown
node 9, on an instance with no routes. -/
theorem twoNodeSite_relayed_stop_writes_nothing :
    twoNodeStopSite.ctl.router.Keyed ∧
      ((stop .system { executionId := 1, nodeIds := [5, 9], broadcast := false }).run.run
        twoNodeStopSite).2.db = twoNodeStopSite.db :=
  ⟨by decide, ((relayed_requests_never_write .system twoNodeStopSite (by decide)).2.1 _ rfl).1⟩

end Orchestrator

end LoadDispatch
