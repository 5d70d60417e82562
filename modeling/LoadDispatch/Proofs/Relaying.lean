import LoadDispatch.Proofs.Dispatch

/-!
A relay as a conversation with the siblings, each in turn sent the nodes still unclaimed and
answering as it likes. Over every conversation and list of distinct nodes the relay gives each node
exactly one outcome; `relay` is the conversation in which an answer depends only on what is sent.
-/
namespace LoadDispatch

/-- An outcome claims a node for the sibling that gave it when it names the node and does not
say that the sibling has no route to it either. -/
def NodeOutcome.claims (o : NodeOutcome) (n : Int) : Bool :=
  o.nodeId == some n && o.kind != .routerNotFound

@[simp] theorem NodeOutcome.claims_iff (o : NodeOutcome) (n : Int) :
    o.claims n = true ↔ o.nodeId = some n ∧ o.kind ≠ .routerNotFound := by
  simp [NodeOutcome.claims]

theorem claimAnswer_eq (acc : List NodeOutcome × List Int) (o : NodeOutcome) :
    claimAnswer acc o =
      (acc.1 ++ (if acc.2.any o.claims then [o] else []), acc.2.filter fun n => !o.claims n) := by
  unfold claimAnswer NodeOutcome.claims
  rcases hid : o.nodeId with _ | m
  · simp
  · by_cases hk : o.kind = .routerNotFound
    · simp [hk]
    · -- the outcome claims exactly its own node `m`
      have hk' : (o.kind != .routerNotFound) = true := by simpa using hk
      simp only [Option.some_beq_some, hk', Bool.and_true, Bool.true_and]
      have hleft : acc.2.filter (· != m) = acc.2.filter fun n => !(m == n) :=
        List.filter_congr fun n _ => by rw [bne_comm]; rfl
      by_cases hm : m ∈ acc.2
      · have hany : acc.2.any (m == ·) = true := List.any_eq_true.mpr ⟨m, hm, beq_self_eq_true m⟩
        simp [hm, hany, hleft]
      · have hany : acc.2.any (m == ·) = false :=
          List.any_eq_false.mpr fun n hn h => hm (by rw [beq_iff_eq] at h; exact h ▸ hn)
        have hkeep : acc.2.filter (fun n => !(m == n)) = acc.2 :=
          List.filter_eq_self.mpr fun n hn => by
            have : m ≠ n := fun h => hm (h ▸ hn)
            simpa using this
        simp [hm, hany, hkeep]

theorem foldl_claimAnswer_left (answers : List NodeOutcome) (acc : List NodeOutcome × List Int) :
    (answers.foldl claimAnswer acc).2 = acc.2.filter fun n => !answers.any (·.claims n) := by
  induction answers generalizing acc with
  | nil => simp
  | cons o rest ih =>
    rw [List.foldl_cons, ih, claimAnswer_eq, List.filter_filter]
    refine List.filter_congr fun n _ => ?_
    simp only [List.any_cons, Bool.not_or, Bool.and_comm]

theorem mem_foldl_claimAnswer (answers : List NodeOutcome) (acc : List NodeOutcome × List Int)
    {o : NodeOutcome} (h : o ∈ (answers.foldl claimAnswer acc).1) :
    o ∈ acc.1 ∨ ∃ n ∈ acc.2, o.nodeId = some n ∧ answers.find? (·.claims n) = some o := by
  induction answers generalizing acc with
  | nil => exact .inl h
  | cons a rest ih =>
    rw [List.foldl_cons] at h
    rcases ih (claimAnswer acc a) h with hmem | ⟨n, hn, hid, hfind⟩
    · rw [claimAnswer_eq, List.mem_append] at hmem
      rcases hmem with hmem | hmem
      · exact .inl hmem
      · -- `a` itself, kept because it claims a node still unclaimed
        split at hmem
        · rename_i hany
          obtain ⟨n, hn, hc⟩ := List.any_eq_true.mp hany
          obtain rfl : o = a := List.mem_singleton.mp hmem
          exact .inr ⟨n, hn, ((NodeOutcome.claims_iff _ _).mp hc).1, by simp [hc]⟩
        · simp at hmem
    · rw [claimAnswer_eq] at hn
      obtain ⟨hn, hnot⟩ := List.mem_filter.mp hn
      refine .inr ⟨n, hn, hid, ?_⟩
      have hna : a.claims n = false := by simpa using hnot
      rw [List.find?_cons, hna]
      exact hfind


/-- One request of a relay: the sibling asked, the nodes it is sent and its answer, `none` when
the call failed in transport or was refused. -/
structure Contact where
  peer : PeerInstance
  sent : List Int
  answer : Option (List NodeOutcome)

namespace Contact

def answers (c : Contact) : List NodeOutcome := c.answer.getD []

def claimsNode (c : Contact) (n : Int) : Bool := c.answers.any (·.claims n)

def tally (c : Contact) : List NodeOutcome × List Int := c.answers.foldl claimAnswer ([], c.sent)

theorem tally_left (c : Contact) : c.tally.2 = c.sent.filter fun n => !c.claimsNode n :=
  foldl_claimAnswer_left c.answers ([], c.sent)

theorem tally_perm (c : Contact) (hnd : c.sent.Nodup) :
    (c.tally.1.map (·.nodeId) ++ c.tally.2.map some).Perm (c.sent.map some) :=
  claim_fold_perm c.answers [] c.sent hnd c.sent (by simp)

end Contact

def unclaimed (contacts : List Contact) (nodes : List Int) : List Int :=
  nodes.filter fun n => !contacts.any (·.claimsNode n)

/-- The first answer claiming a node, from the first contact whose answer claims it. -/
def firstClaim (contacts : List Contact) (n : Int) : Option NodeOutcome :=
  contacts.findSome? fun c => c.answers.find? (·.claims n)

theorem firstClaim_eq_none {contacts : List Contact} {n : Int}
    (h : contacts.any (·.claimsNode n) = false) : firstClaim contacts n = none := by
  unfold firstClaim
  rw [List.findSome?_eq_none_iff]
  intro c hc
  rw [List.find?_eq_none]
  intro o ho hclaim
  have hnone := List.any_eq_false.mp h c hc
  exact hnone (List.any_eq_true.mpr ⟨o, ho, hclaim⟩)

/-- The claim loop of a relay, with its requests recorded: each sibling in turn is sent the
nodes still unclaimed, and the `k`-th sibling asked answers `answer k peer sent`. -/
def converse (answer : Nat → PeerInstance → List Int → Option (List NodeOutcome)) :
    Nat → List PeerInstance → List Int → List NodeOutcome × List Int × List Contact
  | _, [], remaining => ([], remaining, [])
  | k, peer :: rest, remaining =>
    if remaining.isEmpty then ([], remaining, [])
    else
      let c : Contact := ⟨peer, remaining, answer k peer remaining⟩
      let more := converse answer (k + 1) rest c.tally.2
      (c.tally.1 ++ more.1, more.2.1, c :: more.2.2)


theorem firstClaim_cons (c : Contact) (contacts : List Contact) (n : Int) :
    firstClaim (c :: contacts) n = (c.answers.find? (·.claims n)).or (firstClaim contacts n) := by
  unfold firstClaim
  rw [List.findSome?_cons]
  cases c.answers.find? (·.claims n) <;> rfl

section Converse

variable (answer : Nat → PeerInstance → List Int → Option (List NodeOutcome))

theorem converse_left (k : Nat) (peers : List PeerInstance) (remaining : List Int) :
    (converse answer k peers remaining).2.1 =
      unclaimed (converse answer k peers remaining).2.2 remaining := by
  induction peers generalizing k remaining with
  | nil => simp [converse, unclaimed]
  | cons peer rest ih =>
    by_cases hr : remaining.isEmpty = true
    · simp [converse, List.isEmpty_iff.mp hr, unclaimed]
    · simp only [converse, hr, Bool.false_eq_true, if_false]
      rw [ih, Contact.tally_left, unclaimed, unclaimed, List.filter_filter]
      refine List.filter_congr fun n _ => ?_
      simp only [List.any_cons, Bool.not_or, Bool.and_comm]


/-- A conversation over distinct nodes accounts for each node once: claimed by one sibling, or
left unclaimed. -/
theorem converse_perm (k : Nat) (peers : List PeerInstance) {remaining : List Int}
    (hnd : remaining.Nodup) :
    ((converse answer k peers remaining).1.map (·.nodeId) ++
      (converse answer k peers remaining).2.1.map some).Perm (remaining.map some) := by
  induction peers generalizing k remaining with
  | nil => simp [converse]
  | cons peer rest ih =>
    by_cases hr : remaining.isEmpty = true
    · simp [converse, List.isEmpty_iff.mp hr]
    · simp only [converse, hr, Bool.false_eq_true, if_false]
      set c : Contact := ⟨peer, remaining, answer k peer remaining⟩
      have hleft : c.tally.2.Nodup := by rw [c.tally_left]; exact hnd.filter _
      simp only [List.map_append, List.append_assoc]
      exact (List.Perm.append_left _ (ih (k + 1) hleft)).trans (c.tally_perm hnd)

theorem mem_converse_claimed (k : Nat) (peers : List PeerInstance) {remaining : List Int}
    {o : NodeOutcome} (h : o ∈ (converse answer k peers remaining).1) :
    ∃ n ∈ remaining, o.nodeId = some n ∧
      firstClaim (converse answer k peers remaining).2.2 n = some o := by
  induction peers generalizing k remaining with
  | nil => simp [converse] at h
  | cons peer rest ih =>
    by_cases hr : remaining.isEmpty = true
    · simp [converse, List.isEmpty_iff.mp hr] at h
    · simp only [converse, hr, Bool.false_eq_true, if_false] at h ⊢
      set c : Contact := ⟨peer, remaining, answer k peer remaining⟩
      simp only [firstClaim_cons]
      rcases List.mem_append.mp h with h | h
      · -- kept from this sibling's answers
        rcases mem_foldl_claimAnswer c.answers ([], c.sent) h with h | ⟨n, hn, hid, hfind⟩
        · simp at h
        · exact ⟨n, hn, hid, by rw [hfind]; rfl⟩
      · -- kept from a later sibling, for a node this one left unclaimed
        obtain ⟨n, hn, hid, hfirst⟩ := ih (k + 1) h
        rw [c.tally_left] at hn
        obtain ⟨hn, hnc⟩ := List.mem_filter.mp hn
        have hnone : c.answers.find? (·.claims n) = none := by
          rw [List.find?_eq_none]
          intro a ha hclaim
          simp only [Contact.claimsNode, Bool.not_eq_true', List.any_eq_false] at hnc
          exact hnc a ha hclaim
        exact ⟨n, hn, hid, by rw [hnone, hfirst]; rfl⟩

theorem converse_sent (k : Nat) (peers : List PeerInstance) (remaining : List Int) {i : Nat}
    {c : Contact} (h : (converse answer k peers remaining).2.2[i]? = some c) :
    c.sent = unclaimed ((converse answer k peers remaining).2.2.take i) remaining ∧
      c.sent ≠ [] := by
  induction peers generalizing k remaining i with
  | nil => simp [converse] at h
  | cons peer rest ih =>
    by_cases hr : remaining.isEmpty = true
    · simp [converse, List.isEmpty_iff.mp hr] at h
    · simp only [converse, hr, Bool.false_eq_true, if_false] at h ⊢
      set c₀ : Contact := ⟨peer, remaining, answer k peer remaining⟩
      cases i with
      | zero =>
        obtain rfl : c₀ = c := by simpa using h
        refine ⟨by simp [c₀, unclaimed], by simpa [c₀] using hr⟩
      | succ i =>
        obtain ⟨hsent, hne⟩ := ih (k + 1) _ (by simpa using h)
        refine ⟨?_, hne⟩
        rw [hsent, c₀.tally_left, List.take_succ_cons, unclaimed, unclaimed, List.filter_filter]
        refine List.filter_congr fun n _ => ?_
        simp only [List.any_cons, Bool.not_or, Bool.and_comm]

theorem converse_peers (k : Nat) (peers : List PeerInstance) (remaining : List Int) :
    ((converse answer k peers remaining).2.2.map (·.peer)) <+: peers := by
  induction peers generalizing k remaining with
  | nil => simp [converse]
  | cons peer rest ih =>
    by_cases hr : remaining.isEmpty = true
    · simp [converse, hr]
    · simp only [converse, hr, Bool.false_eq_true, if_false, List.map_cons]
      exact List.cons_prefix_cons.mpr ⟨rfl, ih (k + 1) _⟩

end Converse


def siblingPeers (peers : List PeerInstance) (ownership : List (String × List Int))
    (selfPrefix : String) : List PeerInstance :=
  peers.filter fun p => hostPrefix p.instanceId != selfPrefix && ownership.any (·.1 == p.host)

def relayConversation (answer : Nat → PeerInstance → List Int → Option (List NodeOutcome))
    (peers : List PeerInstance) (ownership : List (String × List Int)) (selfPrefix : String)
    (nodes : List Int) : List NodeOutcome × List Contact :=
  let batch (message : String) := nodes.map fun n => NodeOutcome.failed (some n) .routerNotFound message
  if nodes.isEmpty then ([], [])
  else if peers.isEmpty then (batch "no controller instance discovered", [])
  else
    let siblings := siblingPeers peers ownership selfPrefix
    if siblings.isEmpty then (batch "no matching controller instance", [])
    else
      let talk := converse answer 0 siblings nodes
      (talk.1 ++ talk.2.1.map NodeOutcome.routerNotFound, talk.2.2)

theorem claimFrom_eq_converse (post : PeerInstance → List Int → Option (List NodeOutcome))
    (k : Nat) (peers : List PeerInstance) (remaining : List Int) :
    claimFrom post peers remaining =
      ((converse (fun _ => post) k peers remaining).1, (converse (fun _ => post) k peers remaining).2.1) := by
  induction peers generalizing k remaining with
  | nil => rfl
  | cons peer rest ih =>
    by_cases hr : remaining.isEmpty = true
    · simp [claimFrom, converse, hr]
    · simp only [claimFrom, converse, hr, Bool.false_eq_true, if_false]
      rcases hp : post peer remaining with _ | answers
      · simp only [Contact.tally, Contact.answers, Option.getD_none, List.foldl_nil, ih (k + 1)]
      · simp only [Contact.tally, Contact.answers, Option.getD_some, ih (k + 1)]

/-- `relay` is the conversation in which a sibling's answer depends only on what it is sent. -/
theorem relay_eq_conversation (post : PeerInstance → List Int → Option (List NodeOutcome))
    (peers : List PeerInstance) (ownership : List (String × List Int)) (selfPrefix : String)
    (nodes : List Int) :
    relay post peers ownership selfPrefix nodes =
      (relayConversation (fun _ => post) peers ownership selfPrefix nodes).1 := by
  unfold relay relayConversation
  simp only [siblingPeers, claimFrom_eq_converse post 0]
  split_ifs <;> simp [*]


theorem relayConversation_cases (answer : Nat → PeerInstance → List Int → Option (List NodeOutcome))
    (peers : List PeerInstance) (ownership : List (String × List Int)) (selfPrefix : String)
    (nodes : List Int) :
    (∃ message, relayConversation answer peers ownership selfPrefix nodes =
        (nodes.map fun n => NodeOutcome.failed (some n) .routerNotFound message, [])) ∨
      relayConversation answer peers ownership selfPrefix nodes =
        ((converse answer 0 (siblingPeers peers ownership selfPrefix) nodes).1 ++
          (converse answer 0 (siblingPeers peers ownership selfPrefix) nodes).2.1.map
            NodeOutcome.routerNotFound,
         (converse answer 0 (siblingPeers peers ownership selfPrefix) nodes).2.2) := by
  unfold relayConversation
  dsimp only
  split_ifs with hn
  · exact .inl ⟨"", by simp [List.isEmpty_iff.mp hn]⟩
  · exact .inl ⟨_, rfl⟩
  · exact .inl ⟨_, rfl⟩
  · exact .inr rfl

/-- What a relay owes a node after its contacts: the first answer claiming it, from the first
sibling that claimed it, or else a failure saying no router reaches it. -/
def Owed (contacts : List Contact) (n : Int) (o : NodeOutcome) : Prop :=
  match firstClaim contacts n with
  | some a => o = a
  | none => o.kind = .routerNotFound ∧ o.success = false

/-- Whatever the siblings answer, a relay of distinct nodes gives each exactly one outcome: the
first answer claiming it from the first sibling that claimed it, or a router-not-found failure. Each
sibling asked has another host prefix, owns nodes and is sent exactly the nodes no earlier one
claimed. -/
theorem relay_answers_every_node_once
    (answer : Nat → PeerInstance → List Int → Option (List NodeOutcome))
    (peers : List PeerInstance) (ownership : List (String × List Int)) (selfPrefix : String)
    (nodes : List Int) (hnd : nodes.Nodup) :
    let r := relayConversation answer peers ownership selfPrefix nodes
    (r.1.map (·.nodeId)).Perm (nodes.map some) ∧
      (∀ o ∈ r.1, ∃ n ∈ nodes, o.nodeId = some n ∧ Owed r.2 n o) ∧
      (∀ i c, r.2[i]? = some c → c.sent = unclaimed (r.2.take i) nodes ∧ c.sent ≠ []) ∧
      (∀ c ∈ r.2, hostPrefix c.peer.instanceId ≠ selfPrefix ∧ ∃ e ∈ ownership, e.1 = c.peer.host) := by
  dsimp only
  rcases relayConversation_cases answer peers ownership selfPrefix nodes with ⟨message, hr⟩ | hr
  · -- no sibling asked: every node fails alike with no router
    rw [hr]
    refine ⟨by simp [List.map_map, Function.comp_def, NodeOutcome.failed], ?_, by simp, by simp⟩
    intro o ho
    obtain ⟨n, hn, rfl⟩ := List.mem_map.mp ho
    exact ⟨n, hn, rfl, by simp [Owed, firstClaim, NodeOutcome.failed]⟩
  · -- the siblings asked in turn
    rw [hr]
    refine ⟨?_, ?_, fun i c h => converse_sent answer 0 _ nodes h, ?_⟩
    · have h := converse_perm answer 0 (siblingPeers peers ownership selfPrefix) hnd
      simpa [List.map_map, Function.comp_def, NodeOutcome.routerNotFound, NodeOutcome.failed] using h
    · intro o ho
      rcases List.mem_append.mp ho with ho | ho
      · obtain ⟨n, hn, hid, hfirst⟩ := mem_converse_claimed answer 0 _ ho
        exact ⟨n, hn, hid, by simp [Owed, hfirst]⟩
      · obtain ⟨n, hn, rfl⟩ := List.mem_map.mp ho
        rw [converse_left, unclaimed] at hn
        obtain ⟨hn, hnc⟩ := List.mem_filter.mp hn
        have hnone := firstClaim_eq_none (by simpa using hnc)
        exact ⟨n, hn, rfl, by simp [Owed, hnone, NodeOutcome.routerNotFound, NodeOutcome.failed]⟩
    · intro c hc
      have hpeer : c.peer ∈ siblingPeers peers ownership selfPrefix :=
        (converse_peers answer 0 _ nodes).subset (List.mem_map_of_mem hc)
      simp only [siblingPeers, List.mem_filter, Bool.and_eq_true, bne_iff_ne, List.any_eq_true,
        beq_iff_eq] at hpeer
      exact hpeer.2


/-- Two siblings on one host and three nodes: the first call fails in transport, the second
sibling claims node 2, answers for node 1 that it has no route, and names a node it was not sent. -/
theorem relay_after_failed_call_answers_each_node_once :
    ([1, 2, 3] : List Int).Nodup ∧
      let r := relayConversation
        (fun k _ _ => if k = 0 then none else
          some [NodeOutcome.failed (some 1) .routerNotFound "no route",
                NodeOutcome.accepted 2 "accepted", NodeOutcome.accepted 9 "accepted"])
        [⟨"10.0.0.1:8080", "10.0.0.1", 8080⟩, ⟨"10.0.0.2:8080", "10.0.0.2", 8080⟩,
         ⟨"10.0.0.2:8081", "10.0.0.2", 8081⟩]
        [("10.0.0.2", [2, 3])] "10.0.0.1" [1, 2, 3]
      (r.1.map (·.nodeId)).Perm (([1, 2, 3] : List Int).map some) ∧
        (∀ o ∈ r.1, ∃ n ∈ ([1, 2, 3] : List Int), o.nodeId = some n ∧ Owed r.2 n o) ∧
        (∀ i c, r.2[i]? = some c → c.sent = unclaimed (r.2.take i) [1, 2, 3] ∧ c.sent ≠ []) ∧
        (∀ c ∈ r.2, hostPrefix c.peer.instanceId ≠ "10.0.0.1" ∧
          ∃ e ∈ ([("10.0.0.2", [2, 3])] : List (String × List Int)), e.1 = c.peer.host) :=
  ⟨by decide, relay_answers_every_node_once _ _ _ _ _ (by decide)⟩

end LoadDispatch
