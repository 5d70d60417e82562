import LoadDispatch.Proofs.Routes

/-!
Calls on one router taking their steps in any order, a dispatch as two: it reads its node's route,
then removes the route when it read one closed, or sends over it. The removal takes whatever route
the node has by then, so a route attached in between is lost; with no such removal pending, an open
route stays.
-/
namespace LoadDispatch

namespace Router

def dropReceiver (r : Router) (node : Int) : Router :=
  { r with routes := r.routes.map fun x => if x.node == node then { x with closed := true } else x }

/-- Sends a command to a node over a route read earlier: when its receiver has been dropped since,
the send fails in transport and nothing changes; otherwise the agent answers and the command is
logged. -/
def deliver (r : Router) (node : Int) (cmd : AgentCommand) (route : Route) : NodeOutcome × Router :=
  if route.closed then
    (NodeOutcome.failed (some node) .transport "agent link closed before the command was delivered", r)
  else
    (r.answerOf route node,
     { r with routes := r.routes.map fun x => if x.node == node then { x with served := x.served + 1 } else x,
              received := r.received ++ [(node, cmd)] })

theorem deliver_of_closed {r : Router} {node : Int} (cmd : AgentCommand) {route : Route}
    (h : route.closed = true) :
    r.deliver node cmd route = (NodeOutcome.failed (some node) .transport
      "agent link closed before the command was delivered", r) := by
  simp [deliver, h]

theorem dispatch_of_open {r : Router} {node : Int} {route : Route} (cmd : AgentCommand)
    (hfind : r.routes.find? (·.node == node) = some route) (hopen : route.closed = false) :
    r.dispatch node cmd = (some (r.deliver node cmd route).1, (r.deliver node cmd route).2) := by
  simp only [dispatch, deliver, hfind, hopen, Bool.false_eq_true, if_false]

theorem isLocal_attach (r : Router) (route : Route) (m : Int) :
    (r.attach route).isLocal m = ((m != route.node && r.isLocal m) || (route.node == m && !route.closed)) := by
  have hsplit : (r.attach route).isLocal m = ((r.detach route.node).isLocal m ||
      (route.node == m && !route.closed)) := by
    simp [isLocal, Router.attach, Router.detach, List.any_append]
  rw [hsplit, isLocal_detach]

theorem isLocal_dropReceiver_of_ne (r : Router) {m node : Int} (hm : m ≠ node) :
    (r.dropReceiver node).isLocal m = r.isLocal m := by
  unfold isLocal dropReceiver
  rw [List.any_map]
  congr 1
  funext x
  by_cases hx : x.node = node
  · -- the closed route is another node's
    simp [hx, Ne.symm hm]
  · simp [hx]

theorem isLocal_deliver (r : Router) (node : Int) (cmd : AgentCommand) (route : Route) (m : Int) :
    (r.deliver node cmd route).2.isLocal m = r.isLocal m := by
  unfold deliver
  split
  · rfl
  · exact any_open_served node m r.routes

section Keyed

variable {r : Router}

theorem Keyed.dropReceiver (h : r.Keyed) (node : Int) : (r.dropReceiver node).Keyed := by
  unfold Keyed Router.dropReceiver
  rw [map_nodes_of_node (fun x => by split <;> rfl)]
  exact h

theorem Keyed.deliver (h : r.Keyed) (node : Int) (cmd : AgentCommand) (route : Route) :
    (r.deliver node cmd route).2.Keyed := by
  unfold Router.deliver
  split
  · exact h
  · unfold Keyed
    rw [map_nodes_of_node (fun x => (served_node_closed node x).1)]
    exact h

theorem Keyed.find?_open (h : r.Keyed) {n : Int} (hn : r.isLocal n = true) :
    ∃ route, r.routes.find? (·.node == n) = some route ∧ route.closed = false := by
  rw [h.isLocal_eq] at hn
  rcases hfind : r.routes.find? (·.node == n) with _ | route
  · simp [hfind] at hn
  · simp only [hfind, Option.map_some, Option.getD_some, Bool.not_eq_true'] at hn
    exact ⟨route, hfind, hn⟩

end Keyed

end Router

/-- Where a dispatch stands between its steps. -/
inductive DispatchPhase where
  | fresh
  /-- Read its node's route closed: it will remove the node's route. -/
  | cleaning
  /-- Read an open route: it will send over that route. -/
  | delivering (route : Route)
  | finished (answer : Option NodeOutcome)

namespace DispatchPhase

def answer? : DispatchPhase → Option (Option NodeOutcome)
  | .finished a => some a
  | _ => none

def isCleaning : DispatchPhase → Bool
  | .cleaning => true
  | _ => false

def answeredUnrouted : DispatchPhase → Bool
  | .finished none => true
  | _ => false

end DispatchPhase

/-- A dispatch of a command to a node, and where it stands. -/
structure Dispatch where
  node : Int
  cmd : AgentCommand
  phase : DispatchPhase := .fresh

/-- The next step of a dispatch on the router. -/
def Dispatch.advance (d : Dispatch) (r : Router) : DispatchPhase × Router :=
  match d.phase with
  | .fresh => match r.routes.find? (·.node == d.node) with
    | none => (.finished none, r)
    | some route => if route.closed then (.cleaning, r) else (.delivering route, r)
  | .cleaning => (.finished none, r.detach d.node)
  | .delivering route =>
    (.finished (some (r.deliver d.node d.cmd route).1), (r.deliver d.node d.cmd route).2)
  | .finished a => (.finished a, r)

/-- The two steps of a dispatch, run back to back, are the router's dispatch. -/
theorem advance_advance_eq_dispatch (r : Router) (node : Int) (cmd : AgentCommand) :
    let p₁ := Dispatch.advance ⟨node, cmd, .fresh⟩ r
    let p₂ := Dispatch.advance ⟨node, cmd, p₁.1⟩ p₁.2
    p₂.1.answer? = some (r.dispatch node cmd).1 ∧ p₂.2 = (r.dispatch node cmd).2 := by
  rcases hfind : r.routes.find? (·.node == node) with _ | route
  · simp [Dispatch.advance, Router.dispatch, hfind, DispatchPhase.answer?]
  · cases hc : route.closed
    · simp [Dispatch.advance, Router.dispatch_of_open cmd hfind hc, hfind, hc,
        DispatchPhase.answer?]
    · simp [Dispatch.advance, Router.dispatch, hfind, hc, DispatchPhase.answer?]

def Dispatch.dropLink (d : Dispatch) (route : Route) : Dispatch :=
  match d.phase with
  | .fresh | .cleaning | .finished _ => d
  | .delivering held =>
    if d.node == route.node && held.link == route.link then
      { d with phase := .delivering { held with closed := true } }
    else d

theorem Dispatch.dropLink_kind (d : Dispatch) (route : Route) :
    (d.dropLink route).node = d.node ∧
      (d.dropLink route).phase.isCleaning = d.phase.isCleaning ∧
      (d.dropLink route).phase.answeredUnrouted = d.phase.answeredUnrouted := by
  obtain ⟨node, cmd, phase⟩ := d
  cases phase with
  | delivering held =>
    simp only [dropLink]
    split <;> exact ⟨rfl, rfl, rfl⟩
  | fresh | cleaning | finished a => exact ⟨rfl, rfl, rfl⟩

/-- One router shared by dispatches in progress; routes attached here get links from `nextLink`
on. -/
structure Routing where
  router : Router
  dispatches : List Dispatch
  nextLink : Nat := 1

/-- One atomic step on the routes: a call that is one step, or the next step of a dispatch. -/
inductive RouteStep where
  | attach (node : Int) (answers : List AgentAnswer)
  | detach (node : Int)
  | dropReceiver (node : Int)
  | advance (i : Nat)

def RouteStep.spares (n : Int) : RouteStep → Bool
  | .detach m | .dropReceiver m => m != n
  | _ => true

namespace Routing

def dropLink (w : Routing) (node : Int) : List Dispatch :=
  match w.router.routes.find? (·.node == node) with
  | some route => w.dispatches.map (·.dropLink route)
  | none => w.dispatches

/-- Takes one step. An attached route is new: a link of its own, open, with no command answered
yet. -/
def step (w : Routing) : RouteStep → Routing
  | .attach node answers =>
    { w with router := w.router.attach { node, link := w.nextLink, answers },
             nextLink := w.nextLink + 1 }
  | .detach node => { w with router := w.router.detach node }
  | .dropReceiver node =>
    { w with router := w.router.dropReceiver node, dispatches := w.dropLink node }
  | .advance i => match w.dispatches[i]? with
    | none => w
    | some d =>
      { router := (d.advance w.router).2,
        dispatches := w.dispatches.set i { d with phase := (d.advance w.router).1 } }

def run (w : Routing) (steps : List RouteStep) : Routing := steps.foldl step w

theorem dropLink_eq_map (w : Routing) (node : Int) :
    ∃ f : Dispatch → Dispatch, (∀ d, (f d).node = d.node ∧
      (f d).phase.isCleaning = d.phase.isCleaning ∧
      (f d).phase.answeredUnrouted = d.phase.answeredUnrouted) ∧
      w.dropLink node = w.dispatches.map f := by
  unfold dropLink
  split
  · exact ⟨_, fun d => Dispatch.dropLink_kind d _, rfl⟩
  · exact ⟨id, fun _ => ⟨rfl, rfl, rfl⟩, (List.map_id _).symm⟩

def unroutedAnswers (n : Int) (w : Routing) : List Bool :=
  w.dispatches.map fun d => d.node == n && d.phase.answeredUnrouted

/-- Node `n` has an open route on a keyed router, and no dispatch to `n` is about to remove the
node's route. -/
structure Guarded (n : Int) (w : Routing) : Prop where
  keyed : w.router.Keyed
  routed : w.router.isLocal n = true
  noCleanup : ∀ d ∈ w.dispatches, d.node = n → d.phase.isCleaning = false

end Routing

section Guarded

variable {n : Int} {r : Router}

theorem Dispatch.advance_guarded (d : Dispatch) (hk : r.Keyed) (hr : r.isLocal n = true)
    (hc : d.node = n → d.phase.isCleaning = false) :
    (d.advance r).2.Keyed ∧ (d.advance r).2.isLocal n = true ∧
      (d.node = n → (d.advance r).1.isCleaning = false) ∧
      (d.node == n && (d.advance r).1.answeredUnrouted) = (d.node == n && d.phase.answeredUnrouted) := by
  obtain ⟨node, cmd, phase⟩ := d
  cases phase with
  | fresh =>
    by_cases hn : node = n
    · -- the node's route is found open, so the dispatch goes on to send over it
      subst hn
      obtain ⟨route, hfind, hopen⟩ := hk.find?_open hr
      simp [Dispatch.advance, hfind, hopen, hk, hr, DispatchPhase.isCleaning,
        DispatchPhase.answeredUnrouted]
    · have hb : (node == n) = false := by simpa using hn
      refine ⟨?_, ?_, fun h => absurd h hn, by simp [hb]⟩ <;>
        simp only [Dispatch.advance] <;> split <;> (try split) <;> assumption
  | cleaning =>
    have hn : node ≠ n := fun h => by
      have hclean := hc h
      simp [DispatchPhase.isCleaning] at hclean
    have hb : (node == n) = false := by simpa using hn
    refine ⟨hk.detach node, ?_, fun h => absurd h hn, by simp [hb]⟩
    simp only [Dispatch.advance]
    rw [Router.isLocal_detach, hr]
    simpa using hn.symm
  | delivering route =>
    exact ⟨hk.deliver node cmd route, (r.isLocal_deliver node cmd route n).trans hr,
      fun _ => rfl, rfl⟩
  | finished a => exact ⟨hk, hr, fun h => hc h, rfl⟩

namespace Routing

variable {w : Routing}

/-- A step that spares a guarded node keeps it guarded, and no dispatch to it answers that it is
unrouted. -/
theorem Guarded.step (hg : w.Guarded n) {s : RouteStep} (hs : s.spares n = true) :
    (w.step s).Guarded n ∧ (w.step s).unroutedAnswers n = w.unroutedAnswers n := by
  obtain ⟨hk, hr, hc⟩ := hg
  cases s with
  | attach node answers =>
    refine ⟨⟨hk.attach _, ?_, hc⟩, rfl⟩
    simp only [Routing.step, Router.isLocal_attach, hr, Bool.and_true]
    by_cases hn : node = n
    · simp [hn]
    · simp [Ne.symm hn]
  | detach node =>
    have hn : node ≠ n := by simpa [RouteStep.spares] using hs
    refine ⟨⟨hk.detach node, ?_, hc⟩, rfl⟩
    simp only [Routing.step, Router.isLocal_detach, hr, Bool.and_true]
    simpa using hn.symm
  | dropReceiver node =>
    have hn : node ≠ n := by simpa [RouteStep.spares] using hs
    obtain ⟨f, hf, hmap⟩ := w.dropLink_eq_map node
    refine ⟨⟨hk.dropReceiver node, (w.router.isLocal_dropReceiver_of_ne hn.symm).trans hr, ?_⟩, ?_⟩
    · intro d hd hdn
      simp only [Routing.step, hmap, List.mem_map] at hd
      obtain ⟨d₀, hd₀, rfl⟩ := hd
      rw [(hf d₀).2.1]
      exact hc d₀ hd₀ ((hf d₀).1 ▸ hdn)
    · simp only [Routing.step, unroutedAnswers, hmap, List.map_map]
      congr 1
      funext d
      simp [(hf d).1, (hf d).2.2]
  | advance i =>
    simp only [Routing.step]
    rcases hd : w.dispatches[i]? with _ | d
    · exact ⟨⟨hk, hr, hc⟩, rfl⟩
    obtain ⟨hk', hr', hc', hun⟩ :=
      d.advance_guarded hk hr (hc d (List.mem_of_getElem? hd))
    refine ⟨⟨hk', hr', fun d' hd' hn => ?_⟩, ?_⟩
    · -- the dispatch that stepped, or another one as it was
      rcases List.mem_or_eq_of_mem_set hd' with hd' | rfl
      · exact hc d' hd' hn
      · exact hc' hn
    · -- the stepped dispatch keeps its entry, so the list is set to what it held
      obtain ⟨hi, hget⟩ := List.getElem?_eq_some_iff.mp hd
      have hself : w.dispatches.set i d = w.dispatches := by
        rw [← hget]
        exact List.set_getElem_self hi
      unfold unroutedAnswers
      rw [List.map_set]
      simp only [hun]
      rw [← List.map_set, hself]

theorem Guarded.run (steps : List RouteStep) :
    ∀ {w : Routing}, w.Guarded n → (∀ s ∈ steps, s.spares n = true) →
      (w.run steps).Guarded n ∧ (w.run steps).unroutedAnswers n = w.unroutedAnswers n := by
  induction steps with
  | nil => exact fun hg _ => ⟨hg, rfl⟩
  | cons s rest ih =>
    intro w hg hs
    obtain ⟨hg₁, hun₁⟩ := hg.step (hs s List.mem_cons_self)
    obtain ⟨hg₂, hun₂⟩ := ih hg₁ fun s' hs' => hs s' (List.mem_cons_of_mem s hs')
    exact ⟨hg₂, hun₂.trans hun₁⟩

end Routing

end Guarded

/-- A node with an open route on a keyed router, with no dispatch to it about to remove its route,
keeps an open route through any steps that neither remove its route nor drop its receiver, in any
order with any dispatches' steps, and no further dispatch to it answers that it is unrouted. -/
theorem open_route_survives_without_stale_cleanup (n : Int) (w : Routing) (steps : List RouteStep)
    (hkeyed : w.router.Keyed) (hrouted : w.router.isLocal n = true)
    (hclean : ∀ d ∈ w.dispatches, d.node = n → d.phase.isCleaning = false)
    (hspare : ∀ s ∈ steps, s.spares n = true) :
    (w.run steps).router.isLocal n = true ∧
      (w.run steps).unroutedAnswers n = w.unroutedAnswers n := by
  obtain ⟨hg, hun⟩ := Routing.Guarded.run steps ⟨hkeyed, hrouted, hclean⟩ hspare
  exact ⟨hg.routed, hun⟩

theorem Routing.send_after_drop_fails (w : Routing) {i : Nat} {d : Dispatch} {route cur : Route}
    (hd : w.dispatches[i]? = some d) (hph : d.phase = .delivering route)
    (hcur : w.router.routes.find? (·.node == d.node) = some cur) (hlink : route.link = cur.link) :
    ((w.step (.dropReceiver d.node)).step (.advance i)).dispatches[i]?.map (·.phase.answer?) =
        some (some (some (NodeOutcome.failed (some d.node) .transport
          "agent link closed before the command was delivered"))) ∧
      ((w.step (.dropReceiver d.node)).step (.advance i)).router = w.router.dropReceiver d.node := by
  have hnode : cur.node = d.node := by simpa using List.find?_some hcur
  have hheld : (w.dropLink d.node)[i]? =
      some { d with phase := .delivering { route with closed := true } } := by
    simp only [Routing.dropLink, hcur, List.getElem?_map, hd, Option.map_some, Dispatch.dropLink,
      hph, hnode, hlink, beq_self_eq_true, Bool.and_self, if_true]
  have hi : i < (w.dropLink d.node).length := (List.getElem?_eq_some_iff.mp hheld).1
  have hsend := @Router.deliver_of_closed (w.router.dropReceiver d.node) d.node d.cmd
    { route with closed := true } rfl
  simp only [Routing.step, hheld, Dispatch.advance, hsend, List.getElem?_set_self hi,
    Option.map_some, DispatchPhase.answer?, and_self]

def acceptingAgent : List AgentAnswer := [.reply ⟨true, 1, "accepted", [], 0⟩]

def twoDispatchesToOne : Routing :=
  { router := { routes := [{ node := 1, answers := acceptingAgent }], timeoutMs := 0, tailChars := 0 },
    dispatches := [⟨1, AgentCommand.stopOf 1, .fresh⟩, ⟨1, AgentCommand.stopOf 1, .fresh⟩] }

-- the first dispatch reads node 1's open route, the agent goes away, and the send fails
example : ((twoDispatchesToOne.run [.advance 0, .dropReceiver 1, .advance 0]).dispatches.map
    fun d => d.phase.answer?.map (·.map (·.message))) =
      [some (some "agent link closed before the command was delivered"), none] := by
  decide

def reconnectWhileDispatching : List RouteStep :=
  [.advance 0, .attach 1 acceptingAgent, .advance 1, .advance 0, .advance 1]

theorem twoDispatches_answered_across_reconnect :
    (twoDispatchesToOne.run reconnectWhileDispatching).router.isLocal 1 = true ∧
      (twoDispatchesToOne.run reconnectWhileDispatching).unroutedAnswers 1 =
        twoDispatchesToOne.unroutedAnswers 1 :=
  open_route_survives_without_stale_cleanup 1 twoDispatchesToOne reconnectWhileDispatching
    (by decide) (by decide) (by decide) (by decide)

def reconnectedMidDispatch : Routing :=
  twoDispatchesToOne.run [.dropReceiver 1, .advance 0, .attach 1 acceptingAgent]

/-- Once the new attach has returned, the first dispatch removes node 1's new route with no removal
asked for, and the second dispatch, started only then, finds node 1 unrouted. -/
theorem staleCleanup_loses_attached_route :
    reconnectedMidDispatch.router.isLocal 1 = true ∧
      reconnectedMidDispatch.unroutedAnswers 1 = [false, false] ∧
      reconnectedMidDispatch.dispatches.map (·.phase.isCleaning) = [true, false] ∧
      (∀ s ∈ [RouteStep.advance 0, .advance 1], s.spares 1 = true) ∧
      (reconnectedMidDispatch.run [.advance 0, .advance 1]).router.isLocal 1 = false ∧
      (reconnectedMidDispatch.run [.advance 0, .advance 1]).unroutedAnswers 1 = [true, true] := by
  decide

end LoadDispatch
