import LoadDispatch.Proofs.Operations

/-!
Sending commands over an instance's routes and relaying the rest to siblings. Every command reaches
a routed node, which answers for itself, or leaves its node unrouted, and a relay of distinct nodes
gives exactly one outcome per node.
-/
namespace LoadDispatch

theorem AgentReply.classify_nodeId (r : AgentReply) (node : Int) (tailChars : Nat) :
    (r.classify node tailChars).nodeId = some node := by
  unfold AgentReply.classify
  split
  · rfl
  · split <;> rfl

namespace Router

theorem answerOf_nodeId (r : Router) (route : Route) (node : Int) :
    (r.answerOf route node).nodeId = some node := by
  unfold answerOf
  split
  · exact AgentReply.classify_nodeId _ _ _
  · rfl
  · rfl

theorem dispatch_nodeId {r : Router} {node : Int} {cmd : AgentCommand} {o : NodeOutcome}
    (h : (r.dispatch node cmd).1 = some o) : o.nodeId = some node := by
  unfold dispatch at h
  split at h
  · cases h
  · split at h
    · cases h
    · simp only [Option.some.injEq] at h
      subst h
      exact answerOf_nodeId r _ node

theorem dispatch_received (r : Router) (node : Int) (cmd : AgentCommand) :
    (r.dispatch node cmd).2.received =
      r.received ++ ((r.dispatch node cmd).1.map fun _ => (node, cmd)).toList := by
  unfold dispatch
  split
  · simp
  · split
    · simp [detach]
    · simp

/-- Every command yields an outcome for its node or leaves the node unrouted, and the unrouted
nodes keep the order of the commands. -/
theorem dispatchAll_nodes (r : Router) (cmds : List (Int × AgentCommand)) :
    ((r.dispatchAll cmds).1.map (·.nodeId) ++ (r.dispatchAll cmds).2.1.map some).Perm
        (cmds.map fun c => some c.1) ∧
      (r.dispatchAll cmds).2.1.Sublist (cmds.map (·.1)) := by
  induction cmds generalizing r with
  | nil => simp [dispatchAll]
  | cons c rest ih =>
    obtain ⟨node, cmd⟩ := c
    obtain ⟨hperm, hsub⟩ := ih (r.dispatch node cmd).2
    unfold dispatchAll
    rcases ho : (r.dispatch node cmd).1 with _ | o
    · simp only [ho, List.map_cons] at hperm hsub ⊢
      refine ⟨?_, hsub.cons_cons node⟩
      exact (List.perm_middle.trans (hperm.cons _))
    · simp only [ho, List.map_cons, dispatch_nodeId ho, List.cons_append] at hperm hsub ⊢
      exact ⟨hperm.cons _, hsub.cons node⟩

theorem dispatchAll_received (r : Router) (cmds : List (Int × AgentCommand)) :
    ∃ sent, (r.dispatchAll cmds).2.2.received = r.received ++ sent ∧ sent.Sublist cmds := by
  induction cmds generalizing r with
  | nil => exact ⟨[], by simp [dispatchAll]⟩
  | cons c rest ih =>
    obtain ⟨node, cmd⟩ := c
    have hone := dispatch_received r node cmd
    rcases hd : r.dispatch node cmd with ⟨o, r₁⟩
    rw [hd] at hone
    obtain ⟨sent, hsent, hsub⟩ := ih r₁
    have hrec : (r.dispatchAll ((node, cmd) :: rest)).2.2 = (r₁.dispatchAll rest).2.2 := by
      simp only [dispatchAll, hd]
      rcases r₁.dispatchAll rest with ⟨os, unrouted, r₂⟩
      cases o <;> rfl
    rw [hrec, hsent, hone]
    cases o with
    | none => exact ⟨sent, by simp, hsub.cons _⟩
    | some o => exact ⟨(node, cmd) :: sent, by simp, hsub.cons_cons _⟩

end Router

theorem claimAnswers_sublist (answers : List NodeOutcome) (acc : List NodeOutcome × List Int) :
    (answers.foldl claimAnswer acc).2.Sublist acc.2 := by
  induction answers generalizing acc with
  | nil => exact List.Sublist.refl _
  | cons o rest ih =>
    refine (ih (claimAnswer acc o)).trans ?_
    unfold claimAnswer
    split
    · split
      · exact List.filter_sublist
      · exact List.Sublist.refl _
    · exact List.Sublist.refl _

theorem claim_fold_perm (answers : List NodeOutcome) (claimed : List NodeOutcome)
    (remaining : List Int) (hnd : remaining.Nodup) (nodes : List Int)
    (hperm : (claimed.map (·.nodeId) ++ remaining.map some).Perm (nodes.map some)) :
    let acc := answers.foldl claimAnswer (claimed, remaining)
    (acc.1.map (·.nodeId) ++ acc.2.map some).Perm (nodes.map some) := by
  induction answers generalizing claimed remaining with
  | nil => exact hperm
  | cons o rest ih =>
    simp only [List.foldl_cons]
    unfold claimAnswer
    split
    · rename_i n hn
      split
      · rename_i hkeep
        have hmem : n ∈ remaining := by simpa using (Bool.and_eq_true_iff.mp hkeep).2
        have hsplit : remaining.Perm (n :: remaining.filter (· != n)) := by
          rw [← hnd.erase_eq_filter]
          exact List.perm_cons_erase hmem
        have hperm' : ((claimed ++ [o]).map (·.nodeId) ++ (remaining.filter (· != n)).map some).Perm
            (nodes.map some) := by
          refine List.Perm.trans ?_ hperm
          simp only [List.map_append, List.map_cons, List.map_nil, hn, List.append_assoc,
            List.singleton_append]
          exact List.Perm.append_left _ (hsplit.map some).symm
        exact ih _ _ (hnd.sublist List.filter_sublist) hperm'
      · exact ih _ _ hnd hperm
    · exact ih _ _ hnd hperm

/-- The siblings, asked in turn, claim some of the distinct nodes offered; the claimed outcomes
and the unclaimed nodes together account for each node once. -/
theorem claimFrom_perm (post : PeerInstance → List Int → Option (List NodeOutcome))
    (peers : List PeerInstance) (remaining : List Int) (hnd : remaining.Nodup) :
    ((claimFrom post peers remaining).1.map (·.nodeId) ++
        (claimFrom post peers remaining).2.map some).Perm (remaining.map some) := by
  induction peers generalizing remaining with
  | nil => simp [claimFrom]
  | cons peer rest ih =>
    unfold claimFrom
    split
    · simp
    · rcases hp : post peer remaining with _ | answers
      · simpa using ih remaining hnd
      · simp only
        have hfold := claim_fold_perm answers [] remaining hnd remaining (by simp)
        have hsub := claimAnswers_sublist answers ([], remaining)
        generalize answers.foldl _ ([], remaining) = acc at hfold hsub ⊢
        obtain ⟨claimed, left⟩ := acc
        have hrest := ih left (hnd.sublist hsub)
        simp only [List.map_append, List.append_assoc] at hfold ⊢
        exact (List.Perm.append_left _ hrest).trans hfold

/-- A relay of distinct nodes gives exactly one outcome per node. -/
theorem relay_perm (post : PeerInstance → List Int → Option (List NodeOutcome))
    (peers : List PeerInstance) (ownership : List (String × List Int)) (selfPrefix : String)
    (nodes : List Int) (hnd : nodes.Nodup) :
    ((relay post peers ownership selfPrefix nodes).map (·.nodeId)).Perm (nodes.map some) := by
  unfold relay
  dsimp only
  split
  · rename_i h
    simp_all
  · split
    · simp [List.map_map, Function.comp_def, NodeOutcome.failed]
    · split
      · simp [List.map_map, Function.comp_def, NodeOutcome.failed]
      · generalize List.filter _ peers = siblings
        have h := claimFrom_perm post siblings nodes hnd
        generalize claimFrom post siblings nodes = r at h ⊢
        simpa [List.map_map, Function.comp_def, NodeOutcome.routerNotFound, NodeOutcome.failed]
          using h

theorem claimFrom_congr {post post' : PeerInstance → List Int → Option (List NodeOutcome)}
    {nodes : List Int} (hpost : ∀ peer ts, ts.Sublist nodes → post peer ts = post' peer ts) :
    ∀ (peers : List PeerInstance) {remaining : List Int}, remaining.Sublist nodes →
      claimFrom post peers remaining = claimFrom post' peers remaining
  | [], _, _ => rfl
  | peer :: rest, remaining, hsub => by
    unfold claimFrom
    rw [hpost peer remaining hsub]
    split
    · rfl
    · rcases post' peer remaining with _ | answers
      · simp only
        rw [claimFrom_congr hpost rest hsub]
      · simp only
        have hleft := (claimAnswers_sublist answers ([], remaining)).trans hsub
        rcases hf : answers.foldl claimAnswer ([], remaining) with ⟨claimed, left⟩
        rw [hf] at hleft
        simp only
        rw [claimFrom_congr hpost rest hleft]

/-- A relay asks the siblings only about sub-lists of the nodes it relays. -/
theorem relay_congr {post post' : PeerInstance → List Int → Option (List NodeOutcome)}
    (peers : List PeerInstance) (ownership : List (String × List Int)) (selfPrefix : String)
    {nodes : List Int} (hpost : ∀ peer ts, ts.Sublist nodes → post peer ts = post' peer ts) :
    relay post peers ownership selfPrefix nodes = relay post' peers ownership selfPrefix nodes := by
  unfold relay
  dsimp only
  rw [claimFrom_congr hpost _ (List.Sublist.refl nodes)]

end LoadDispatch
