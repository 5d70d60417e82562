import LoadDispatch.Proofs.Dispatch

/-!
The routes of an instance, at most one per node. On such a router a dispatch answers for a node with
an open route through its agent, leaves a node without one unrouted, and leaves every node as
reachable as it found it.
-/
namespace LoadDispatch

theorem any_key_eq_find? {α κ : Type} [DecidableEq κ] (key : α → κ) (q : α → Bool) (k : κ) :
    ∀ {l : List α}, (l.map key).Nodup →
      l.any (fun x => key x == k && q x) = ((l.find? fun x => key x == k).map q).getD false
  | [], _ => rfl
  | x :: xs, hnd => by
    rw [List.map_cons, List.nodup_cons] at hnd
    by_cases hx : key x = k
    · -- no later element has the key of the first
      have hrest : xs.any (fun y => key y == k && q y) = false := by
        rw [List.any_eq_false]
        intro y hy
        have hyk : key y ≠ k := fun h => hnd.1 (hx ▸ h ▸ List.mem_map_of_mem hy)
        simp [hyk]
      simp [hx, hrest]
    · simp [hx, any_key_eq_find? key q k hnd.2]

namespace Router

/-- At most one route per node. -/
def Keyed (r : Router) : Prop := (r.routes.map (·.node)).Nodup

instance : DecidablePred Keyed := fun r => inferInstanceAs (Decidable (r.routes.map (·.node)).Nodup)

section Keyed

variable {r : Router}

theorem Keyed.detach (h : r.Keyed) (node : Int) : (r.detach node).Keyed :=
  h.sublist (List.filter_sublist.map _)

theorem Keyed.attach (h : r.Keyed) (route : Route) : (r.attach route).Keyed := by
  unfold Keyed Router.attach
  rw [List.map_append, List.nodup_append]
  refine ⟨(h.detach route.node), by simp, ?_⟩
  intro a ha b hb
  simp only [List.map_cons, List.map_nil, List.mem_singleton] at hb
  obtain ⟨x, hx, rfl⟩ := List.mem_map.mp ha
  have hne : (x.node != route.node) = true := (List.mem_filter.mp hx).2
  subst hb
  simpa using hne

theorem served_node_closed (node : Int) (x : Route) :
    (if x.node == node then { x with served := x.served + 1 } else x).node = x.node ∧
      (if x.node == node then { x with served := x.served + 1 } else x).closed = x.closed := by
  split <;> exact ⟨rfl, rfl⟩

theorem map_nodes_of_node {f : Route → Route} (hf : ∀ x, (f x).node = x.node) (routes : List Route) :
    (routes.map f).map (·.node) = routes.map (·.node) := by
  rw [List.map_map]
  exact List.map_congr_left fun x _ => hf x

theorem any_open_served (node m : Int) (routes : List Route) :
    (routes.map fun x => if x.node == node then { x with served := x.served + 1 } else x).any
        (fun x => x.node == m && !x.closed) = routes.any (fun x => x.node == m && !x.closed) := by
  rw [List.any_map]
  congr 1
  funext x
  simp only [Function.comp_apply, (served_node_closed node x).1, (served_node_closed node x).2]

theorem Keyed.dispatch (h : r.Keyed) (node : Int) (cmd : AgentCommand) :
    (r.dispatch node cmd).2.Keyed := by
  unfold Router.dispatch
  split
  · exact h
  · split
    · exact h.detach node
    · unfold Keyed
      rw [map_nodes_of_node (fun x => (served_node_closed node x).1)]
      exact h

/-- On a keyed router a node is routed here exactly when the route a lookup finds is open. -/
theorem Keyed.isLocal_eq (h : r.Keyed) (node : Int) :
    r.isLocal node = ((r.routes.find? (·.node == node)).map fun x => !x.closed).getD false :=
  any_key_eq_find? Route.node (fun x => !x.closed) node h

end Keyed

section Dispatch

variable {r : Router} {node : Int} {cmd : AgentCommand}

theorem dispatch_some {o : NodeOutcome} (h : (r.dispatch node cmd).1 = some o) :
    r.isLocal node = true ∧ o.kind ≠ .routerNotFound := by
  unfold Router.dispatch at h
  split at h
  · cases h
  · rename_i route hfind
    split at h
    · cases h
    · rename_i hopen
      have hroute := List.find?_some hfind
      have hmem := List.mem_of_find?_eq_some hfind
      refine ⟨List.any_eq_true.mpr ⟨route, hmem, by simp_all⟩, ?_⟩
      simp only [Option.some.injEq] at h
      subst h
      unfold answerOf
      split
      · unfold AgentReply.classify
        split
        · simp [NodeOutcome.accepted]
        · split <;> simp [NodeOutcome.failed]
      · simp [NodeOutcome.failed]
      · simp [NodeOutcome.failed]

theorem dispatch_none (hk : r.Keyed) (h : (r.dispatch node cmd).1 = none) :
    r.isLocal node = false := by
  rw [hk.isLocal_eq]
  unfold Router.dispatch at h
  split at h
  · rename_i hfind
    simp [hfind]
  · rename_i route hfind
    split at h
    · rename_i hclosed
      simp [hfind, hclosed]
    · cases h

theorem isLocal_detach (m node : Int) :
    (r.detach node).isLocal m = (m != node && r.isLocal m) := by
  unfold isLocal Router.detach
  rw [List.any_filter]
  by_cases hm : m = node
  · subst hm
    simp only [bne_self_eq_false, Bool.false_and, List.any_eq_false]
    intro x _
    by_cases hx : x.node = m <;> simp [hx]
  · have hne : (m != node) = true := by simpa using hm
    rw [hne, Bool.true_and]
    congr 1
    funext x
    by_cases hx : x.node = m
    · simp [hx, hm]
    · simp [hx]

/-- On a keyed router a dispatch leaves every node as routed as it was: it drops only a route whose
agent is gone. -/
theorem isLocal_dispatch (hk : r.Keyed) (m : Int) :
    (r.dispatch node cmd).2.isLocal m = r.isLocal m := by
  unfold Router.dispatch
  split
  · rfl
  · rename_i route hfind
    split
    · rename_i hclosed
      rw [isLocal_detach]
      by_cases hm : m = node
      · subst hm
        rw [hk.isLocal_eq]
        simp [hfind, hclosed]
      · simp [hm]
    · exact any_open_served node m r.routes

end Dispatch

section Batch

/-- Over a keyed router a batch of commands answers each routed node through its agent and leaves
unrouted exactly the nodes with no open route; the router stays keyed and every node as routed as it
was. -/
theorem dispatchAll_keyed (cmds : List (Int × AgentCommand)) :
    ∀ {r : Router}, r.Keyed →
      (∀ o ∈ (r.dispatchAll cmds).1, o.kind ≠ .routerNotFound ∧
        ∃ n, o.nodeId = some n ∧ r.isLocal n = true) ∧
      (∀ n ∈ (r.dispatchAll cmds).2.1, r.isLocal n = false) ∧
      (r.dispatchAll cmds).2.2.Keyed ∧ ∀ m, (r.dispatchAll cmds).2.2.isLocal m = r.isLocal m := by
  induction cmds with
  | nil => intro r hk; exact ⟨by simp [dispatchAll], by simp [dispatchAll], hk, fun _ => rfl⟩
  | cons c rest ih =>
    intro r hk
    obtain ⟨node, cmd⟩ := c
    rcases hd : r.dispatch node cmd with ⟨o, r₁⟩
    have hk₁ : r₁.Keyed := by simpa [hd] using hk.dispatch node cmd
    have hloc₁ : ∀ m, r₁.isLocal m = r.isLocal m := fun m => by
      simpa [hd] using @isLocal_dispatch r node cmd hk m
    obtain ⟨hos, hun, hk₂, hloc₂⟩ := ih hk₁
    simp only [dispatchAll, hd]
    rcases hr : r₁.dispatchAll rest with ⟨os, unrouted, r₂⟩
    rw [hr] at hos hun hk₂ hloc₂
    cases o with
    | none =>
      have hnone := @dispatch_none r node cmd hk (by rw [hd])
      refine ⟨fun o' ho' => ?_, fun n hn => ?_, hk₂, fun m => (hloc₂ m).trans (hloc₁ m)⟩
      · obtain ⟨hkind, n, hn, hl⟩ := hos o' ho'
        exact ⟨hkind, n, hn, (hloc₁ n) ▸ hl⟩
      · rcases List.mem_cons.mp hn with rfl | hn
        · exact hnone
        · exact (hloc₁ n) ▸ hun n hn
    | some o =>
      have ho : (r.dispatch node cmd).1 = some o := by rw [hd]
      obtain ⟨hlocal, hkind⟩ := dispatch_some ho
      refine ⟨fun o' ho' => ?_, fun n hn => (hloc₁ n) ▸ hun n hn, hk₂,
        fun m => (hloc₂ m).trans (hloc₁ m)⟩
      rcases List.mem_cons.mp ho' with rfl | ho'
      · exact ⟨hkind, node, dispatch_nodeId ho, hlocal⟩
      · obtain ⟨hkind', n, hn, hl⟩ := hos o' ho'
        exact ⟨hkind', n, hn, (hloc₁ n) ▸ hl⟩

end Batch

end Router

/-- Outcomes that answer each requested node once, in some order, where a node is answered
`router_not_found` exactly when the router had no open route to it. -/
def AnswersEachNode (r : Router) (nodes : List Int) (os : List NodeOutcome) : Prop :=
  (os.map (·.nodeId)).Perm (nodes.map some) ∧
    ∀ o ∈ os, ∀ n, o.nodeId = some n → (o.kind = .routerNotFound ↔ r.isLocal n = false)

/-- The outcomes of a batch over a keyed router, followed by `router_not_found` for the nodes it
left unrouted, answer each commanded node once. -/
theorem Router.answersEachNode_dispatchAll {r : Router} (hk : r.Keyed) (cmds : List (Int × AgentCommand)) :
    AnswersEachNode r (cmds.map (·.1))
      ((r.dispatchAll cmds).1 ++ (r.dispatchAll cmds).2.1.map NodeOutcome.routerNotFound) := by
  obtain ⟨hos, hun, -, -⟩ := dispatchAll_keyed cmds hk
  obtain ⟨hperm, -⟩ := dispatchAll_nodes r cmds
  refine ⟨?_, fun o ho n hn => ?_⟩
  · have hfst : cmds.map (fun c => some c.1) = (cmds.map (·.1)).map some := by simp
    rw [← hfst, List.map_append, List.map_map]
    exact hperm
  · rcases List.mem_append.mp ho with ho | ho
    · obtain ⟨hkind, n', hn', hl⟩ := hos o ho
      rw [hn] at hn'
      cases hn'
      simp [hkind, hl]
    · obtain ⟨m, hm, rfl⟩ := List.mem_map.mp ho
      simp only [NodeOutcome.routerNotFound, NodeOutcome.failed, Option.some.injEq] at hn
      subst hn
      simp [NodeOutcome.routerNotFound, NodeOutcome.failed, hun m hm]

end LoadDispatch
