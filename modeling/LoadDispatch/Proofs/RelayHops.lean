import LoadDispatch.Proofs.TrialCaps
import LoadDispatch.Proofs.Relayed
import LoadDispatch.Proofs.Stopping

/-!
Relays take one hop. A start or a stop asks its siblings only about requests that do not broadcast,
those ask nothing, and the relay endpoints never broadcast, so over any network of instances the
answers after any number of hops are those after one.
-/
namespace LoadDispatch

/-- `sib` answers every request that does not broadcast as `sib'` does. -/
def Siblings.AgreeOnRelayed (sib sib' : Siblings) : Prop :=
  (∀ peer (r : StartRequest), r.broadcast = false → sib.start peer r = sib'.start peer r) ∧
    ∀ peer (r : StopRequest), r.broadcast = false → sib.stop peer r = sib'.stop peer r

/-- The operation asks its siblings nothing: its run is the same whoever they are. -/
def SiblingFree {α : Type} (m : SiteM α) : Prop :=
  ∀ s sib, m.run { s with siblings := sib } = ((m.run s).1, { (m.run s).2 with siblings := sib })

/-- The operation asks its siblings only about requests that do not broadcast. -/
def AsksOnlyRelayed {α : Type} (m : SiteM α) : Prop :=
  ∀ s sib, sib.AgreeOnRelayed s.siblings →
    m.run { s with siblings := sib } = ((m.run s).1, { (m.run s).2 with siblings := sib })

namespace SiblingFree

variable {α β : Type}

theorem pure (a : α) : SiblingFree (Pure.pure a : SiteM α) := fun _ _ => rfl

theorem bind {m : SiteM α} {f : α → SiteM β} (hm : SiblingFree m) (hf : ∀ a, SiblingFree (f a)) :
    SiblingFree (m >>= f) := by
  intro s sib
  show (f (m.run _).1).run (m.run _).2 = _
  rw [hm s sib, hf _ _ sib]
  rfl

theorem asksOnlyRelayed {m : SiteM α} (h : SiblingFree m) : AsksOnlyRelayed m :=
  fun s sib _ => h s sib

end SiblingFree

namespace Orchestrator

theorem load_siblings (ctx : RequestContext) (id : Int) (s : Site) (sib : Siblings) :
    ((load ctx id).run.run { s with siblings := sib }).1 = ((load ctx id).run.run s).1 := by
  rw [run_load, run_load]

theorem secondaryRound_siblings (exec : Execution) (req : StartRequest) (s : Site) (sib : Siblings) :
    secondaryRound exec req { s with siblings := sib } =
      ((secondaryRound exec req s).1, { (secondaryRound exec req s).2 with siblings := sib }) := by
  unfold secondaryRound
  rcases prepareScript exec with f | script
  · rfl
  · dsimp only
    split
    · rfl
    · rcases shardCommands exec script req.nodeIds (req.shardPlan.getD (.over req.nodeIds)) with
        f | cmds
      · rfl
      · dsimp only
        split <;> rfl

theorem relayedStopRound_siblings (exec : Execution) (req : StopRequest) (s : Site) (sib : Siblings) :
    relayedStopRound exec req { s with siblings := sib } =
      ((relayedStopRound exec req s).1, { (relayedStopRound exec req s).2 with siblings := sib }) := by
  unfold relayedStopRound
  split
  · rfl
  · split <;> rfl

theorem start_siblingFree (ctx : RequestContext) (req : StartRequest) (hb : req.broadcast = false) :
    SiblingFree (start ctx req).run := by
  intro s sib
  rw [run_start_relayed ctx req hb, run_start_relayed ctx req hb, load_siblings]
  rcases ((load ctx req.executionId).run.run s).1 with f | exec
  · rfl
  · dsimp only
    split
    · rfl
    · rw [secondaryRound_siblings exec req s sib]

theorem stop_siblingFree (ctx : RequestContext) (req : StopRequest) (hb : req.broadcast = false) :
    SiblingFree (stop ctx req).run := by
  intro s sib
  rw [run_stop_relayed ctx req hb, run_stop_relayed ctx req hb, load_siblings]
  rcases ((load ctx req.executionId).run.run s).1 with f | exec
  · rfl
  · exact relayedStopRound_siblings exec req s sib

/-- A broadcast stop once its execution is loaded: refused while a start holds the lock, otherwise
its round settles the execution. -/
theorem run_stop_broadcast (ctx : RequestContext) (req : StopRequest) (hb : req.broadcast = true)
    (s : Site) :
    (stop ctx req).run.run s = match ((load ctx req.executionId).run.run s).1 with
      | .error f => (.error f, s)
      | .ok exec =>
        if (s.db.lockHolder (restartKey exec.id) s.now).isSome then (.error (.inFlight exec.id), s)
        else (.ok (stopRound exec (stopTargets exec req) s).1,
          { s with db := ((s.db.removeNodes exec.id
                    (NodeOutcome.succeeded (stopRound exec (stopTargets exec req) s).1)).settleStop
                    exec.id ((stopRound exec (stopTargets exec req) s).1.all (·.success)) s.now).2,
                   ctl := { s.ctl with router := (stopRound exec (stopTargets exec req) s).2 } }) := by
  obtain ⟨L, hL⟩ : ∃ L, (load ctx req.executionId).run.run s = (L, s) :=
    ⟨_, run_load ctx req.executionId s⟩
  unfold stop
  simp only [run_bind, hL, hb, Bool.not_true, Bool.false_and, Bool.false_eq_true, if_false]
  rcases L with f | exec
  · rfl
  · simp only [run_get]
    split
    · rfl
    · simp only [run_bind, run_site, run_dispatchLocal, run_get, run_relayNodes, run_modifyDb,
        run_updateDb, run_pure]
      rfl

theorem stopRound_siblings (exec : Execution) (targets : List Int) (s : Site) {sib : Siblings}
    (hagree : sib.AgreeOnRelayed s.siblings) :
    stopRound exec targets { s with siblings := sib } = stopRound exec targets s := by
  have hpost : (fun peer ts => sib.stop peer { executionId := exec.id, nodeIds := ts, broadcast := false }) =
      fun peer ts => s.siblings.stop peer { executionId := exec.id, nodeIds := ts, broadcast := false } := by
    funext peer ts
    exact hagree.2 peer _ rfl
  unfold stopRound
  dsimp only
  rw [hpost]

theorem start_asksOnlyRelayed (ctx : RequestContext) (req : StartRequest) :
    AsksOnlyRelayed (start ctx req).run := by
  intro s sib hagree
  cases hb : req.broadcast
  · exact (start_siblingFree ctx req hb).asksOnlyRelayed s sib hagree
  · -- the round on the locked site relays only starts that do not broadcast
    exact start_siblings hb fun exec _ _ =>
      primaryRound_siblings ctx exec req { s with db := (acquireRestart s exec).2 } sib
        fun peer _ _ => hagree.1 peer _ rfl

theorem stop_asksOnlyRelayed (ctx : RequestContext) (req : StopRequest) :
    AsksOnlyRelayed (stop ctx req).run := by
  intro s sib hagree
  cases hb : req.broadcast
  · exact (stop_siblingFree ctx req hb).asksOnlyRelayed s sib hagree
  · rw [run_stop_broadcast ctx req hb, run_stop_broadcast ctx req hb, load_siblings]
    rcases ((load ctx req.executionId).run.run s).1 with f | exec
    · rfl
    · dsimp only
      split
      · rfl
      · rw [stopRound_siblings exec _ s hagree]

end Orchestrator

open Orchestrator

theorem Api.relayed_siblingFree {α : Type} {req : Api.Request} {shape : Shape} {d : Decoder α}
    {targets : α → List Int} {run : RequestContext → α → Orch (List NodeOutcome)}
    (hrun : ∀ ctx a, SiblingFree (run ctx a).run) :
    SiblingFree (Api.relayed req shape d targets run) := by
  unfold Api.relayed Api.withInputs
  split
  · rename_i inputs _
    obtain ⟨ctx, a⟩ := inputs
    dsimp only
    split
    · exact .pure _
    · exact (hrun ctx a).bind fun r => by
        cases r <;> exact .pure _
  · exact .pure _

theorem Api.relayStart_siblingFree (req : Api.Request) :
    ∃ h, Api.route req ["relay", "start"] = some [("POST", h)] ∧ SiblingFree h :=
  ⟨_, rfl, Api.relayed_siblingFree fun _ _ => start_siblingFree _ _ rfl⟩

theorem Api.relayStop_siblingFree (req : Api.Request) :
    ∃ h, Api.route req ["relay", "stop"] = some [("POST", h)] ∧ SiblingFree h :=
  ⟨_, rfl, Api.relayed_siblingFree fun _ _ => stop_siblingFree _ _ rfl⟩

namespace Site

/-- What an instance answers a relayed start, as its endpoint does for the system principal: the
outcomes of the start it runs without broadcasting, or its failure's outcome for each named node. -/
def relayStartAnswer (s : Site) (r : StartRequest) : List NodeOutcome :=
  match ((start .system { r with broadcast := false }).run.run s).1 with
  | .ok os => os
  | .error f => f.nodeOutcomes r.nodeIds

def relayStopAnswer (s : Site) (r : StopRequest) : List NodeOutcome :=
  match ((stop .system { r with broadcast := false }).run.run s).1 with
  | .ok os => os
  | .error f => f.nodeOutcomes r.nodeIds

@[simp]
theorem relayStartAnswer_siblings (s : Site) (sib : Siblings) (r : StartRequest) :
    relayStartAnswer { s with siblings := sib } r = relayStartAnswer s r := by
  unfold relayStartAnswer
  rw [start_siblingFree .system _ rfl s sib]

@[simp]
theorem relayStopAnswer_siblings (s : Site) (sib : Siblings) (r : StopRequest) :
    relayStopAnswer { s with siblings := sib } r = relayStopAnswer s r := by
  unfold relayStopAnswer
  rw [stop_siblingFree .system _ rfl s sib]

end Site

/-- Controller instances as their peers reach them: the site a relayed request finds each one in,
or none where no instance listens. -/
def Network := PeerInstance → Option Site

namespace Network

/-- How the instances of a network answer relays followed for at most `hops` hops: with none left no
call gets through, otherwise each answers with its endpoint's run. -/
def reach (N : Network) : Nat → Siblings
  | 0 => .unreachable
  | hops + 1 =>
    ⟨fun peer r => (N peer).map fun s => Site.relayStartAnswer { s with siblings := N.reach hops } r,
      fun peer r => (N peer).map fun s => Site.relayStopAnswer { s with siblings := N.reach hops } r⟩

/-- Siblings that answer as the network does when every instance reaches its own siblings through
them: a solution of the instances relaying to one another, cycles among them included. -/
def Answers (N : Network) (sib : Siblings) : Prop :=
  (∀ peer r, sib.start peer r = (N peer).map fun s => Site.relayStartAnswer { s with siblings := sib } r) ∧
    ∀ peer r, sib.stop peer r = (N peer).map fun s => Site.relayStopAnswer { s with siblings := sib } r

/-- A second hop is never taken. -/
theorem reach_succ (N : Network) (hops : Nat) : N.reach (hops + 1) = N.reach 1 := by
  simp only [reach, Site.relayStartAnswer_siblings, Site.relayStopAnswer_siblings]

/-- The one-hop answers are the only ones consistent with the network. -/
theorem answers_iff (N : Network) (sib : Siblings) : N.Answers sib ↔ sib = N.reach 1 := by
  constructor
  · rintro ⟨hstart, hstop⟩
    obtain ⟨start, stop⟩ := sib
    simp only [reach, Siblings.mk.injEq, Site.relayStartAnswer_siblings,
      Site.relayStopAnswer_siblings]
    constructor
    · funext peer r
      simpa only [Site.relayStartAnswer_siblings] using hstart peer r
    · funext peer r
      simpa only [Site.relayStopAnswer_siblings] using hstop peer r
  · rintro rfl
    constructor
    · intro peer r
      simp only [reach, Site.relayStartAnswer_siblings]
    · intro peer r
      simp only [reach, Site.relayStopAnswer_siblings]

end Network

/-- Starts and stops relay only requests that do not broadcast, those never relay, the relay
endpoints never broadcast whatever they are sent, and so relays between any instances stop after
one hop. -/
theorem relays_take_one_hop :
    (∀ ctx (req : StartRequest), AsksOnlyRelayed (start ctx req).run) ∧
    (∀ ctx (req : StopRequest), AsksOnlyRelayed (stop ctx req).run) ∧
    (∀ ctx (req : StartRequest), SiblingFree (start ctx { req with broadcast := false }).run) ∧
    (∀ ctx (req : StopRequest), SiblingFree (stop ctx { req with broadcast := false }).run) ∧
    (∀ req : Api.Request,
      (∃ h, Api.route req ["relay", "start"] = some [("POST", h)] ∧ SiblingFree h) ∧
        ∃ h, Api.route req ["relay", "stop"] = some [("POST", h)] ∧ SiblingFree h) ∧
    ∀ N : Network, (∀ hops, N.reach (hops + 1) = N.reach 1) ∧ ∀ sib, N.Answers sib ↔ sib = N.reach 1 :=
  ⟨start_asksOnlyRelayed, stop_asksOnlyRelayed, fun ctx _ => start_siblingFree ctx _ rfl,
    fun ctx _ => stop_siblingFree ctx _ rfl,
    fun req => ⟨Api.relayStart_siblingFree req, Api.relayStop_siblingFree req⟩,
    fun N => ⟨N.reach_succ, N.answers_iff⟩⟩

end LoadDispatch
