import LoadDispatch.Proofs.Selection

/-!
What a node selection answers, for every registry and request: it fails for want of nodes exactly
when the request admits none, and otherwise picks `max count 1` of them, the least loaded for
idle-preferred selection and the cyclic window at the cursor for round robin.
-/
namespace LoadDispatch

/-- A node a request admits: enabled, of the request's pool, among the allowed nodes when these
are named, and not excluded. -/
def SelectionRequest.Admits (req : SelectionRequest) (n : Node) : Prop :=
  n.enabled = true ∧ n.inPool req.pool = true ∧
    (∀ allowed, req.available = some allowed → n.id ∈ allowed) ∧ n.id ∉ req.exclude

def SelectionRequest.passes (req : SelectionRequest) (m : NodeInfo) : Bool :=
  req.available.all (fun allowed => allowed.contains m.id) && !req.exclude.contains m.id

/-- The order of idle-preferred selection: fewer active executions first, then the lower id. -/
def NodeInfo.LoadBefore (a b : NodeInfo) : Prop :=
  a.activeExecutions < b.activeExecutions ∨
    a.activeExecutions = b.activeExecutions ∧ a.id < b.id

def NodeInfo.silentSince (cutoff : Int) (m : NodeInfo) : Bool := decide (m.lastHeartbeatMs < cutoff)

namespace Database

/-- The candidates of a selection: the nodes the request admits, with their loads, in id order. -/
def admitted (db : Database) (req : SelectionRequest) : List NodeInfo :=
  (db.candidates req.pool).filter req.passes

/-- The nodes a selection picks from the cursor, before it checks that they are live. -/
def picks (db : Database) (shuffle : Shuffle) (req : SelectionRequest) (cursor : Nat) :
    List NodeInfo :=
  (orderCandidates shuffle (db.admitted req) req.strategy cursor).take (max req.count 1)

@[simp] theorem info_id (db : Database) (n : Node) : (db.info n).id = n.id := rfl

@[simp] theorem info_lastHeartbeatMs (db : Database) (n : Node) :
    (db.info n).lastHeartbeatMs = n.lastHeartbeatMs := rfl

@[simp] theorem info_activeExecutions (db : Database) (n : Node) :
    (db.info n).activeExecutions = db.activeExecutions n.id := rfl

end Database

/-- The answer of a selection once it has picked: with liveness required, the first picked node
silent since the cutoff fails it. -/
def liveAnswer (requireLive : Bool) (cutoff : Int) (picked : List NodeInfo) :
    Except SelectionError (List NodeInfo) :=
  (if requireLive then picked.find? (NodeInfo.silentSince cutoff) else none).elim (.ok picked)
    fun dead => .error (.nodeNotLive dead.id)

namespace Database

variable {db : Database} {req : SelectionRequest}

theorem mem_candidates {pool : NodePool} {m : NodeInfo} :
    m ∈ db.candidates pool ↔
      ∃ n ∈ db.nodes, n.enabled = true ∧ n.inPool pool = true ∧ m = db.info n := by
  unfold candidates nodesById
  simp only [List.mem_map, List.mem_filter, mem_sortBy, Bool.and_eq_true]
  constructor
  · rintro ⟨n, ⟨hn, he, hp⟩, rfl⟩
    exact ⟨n, hn, he, hp, rfl⟩
  · rintro ⟨n, hn, he, hp, rfl⟩
    exact ⟨n, ⟨hn, he, hp⟩, rfl⟩

theorem passes_info_iff (n : Node) :
    req.passes (db.info n) = true ↔
      (∀ allowed, req.available = some allowed → n.id ∈ allowed) ∧
        n.id ∉ req.exclude := by
  unfold SelectionRequest.passes
  cases req.available <;> simp

theorem mem_admitted {m : NodeInfo} :
    m ∈ db.admitted req ↔ ∃ n ∈ db.nodes, req.Admits n ∧ m = db.info n := by
  unfold admitted SelectionRequest.Admits
  rw [List.mem_filter, mem_candidates]
  constructor
  · rintro ⟨⟨n, hn, he, hp, rfl⟩, hpass⟩
    exact ⟨n, hn, ⟨he, hp, (passes_info_iff n).mp hpass⟩, rfl⟩
  · rintro ⟨n, hn, ⟨he, hp, hpass⟩, rfl⟩
    exact ⟨⟨n, hn, he, hp, rfl⟩, (passes_info_iff n).mpr hpass⟩

theorem admitted_eq_nil_iff : db.admitted req = [] ↔ ∀ n ∈ db.nodes, ¬ req.Admits n := by
  rw [List.eq_nil_iff_forall_not_mem]
  constructor
  · intro h n hn ha
    exact h (db.info n) (mem_admitted.mpr ⟨n, hn, ha, rfl⟩)
  · rintro h m hm
    obtain ⟨n, hn, ha, -⟩ := mem_admitted.mp hm
    exact h n hn ha

theorem nodesById_sorted (hdb : db.NodeIdsUnique) :
    db.nodesById.Pairwise fun a b => a.id < b.id := by
  have hle : db.nodesById.Pairwise fun a b => decide (a.id ≤ b.id) = true :=
    pairwise_sortBy _ (fun a b c hab hbc => by simp only [decide_eq_true_eq] at *; omega)
      (fun a b => by simp only [decide_eq_true_eq]; omega) _
  have hne : db.nodesById.Pairwise fun a b => a.id ≠ b.id :=
    List.pairwise_map.mp (hdb.perm ((sortBy_perm _ db.nodes).map _).symm)
  exact (hle.and hne).imp fun h => lt_of_le_of_ne (of_decide_eq_true h.1) h.2

theorem admitted_sorted (hdb : db.NodeIdsUnique) :
    (db.admitted req).Pairwise fun a b => a.id < b.id := by
  unfold admitted candidates
  refine List.Pairwise.filter _ (List.pairwise_map.mpr ?_)
  exact ((nodesById_sorted hdb).filter _).imp id

theorem admitted_ids_nodup (hdb : db.NodeIdsUnique) : ((db.admitted req).map (·.id)).Nodup :=
  List.pairwise_map.mpr ((admitted_sorted hdb).imp Int.ne_of_lt)

end Database

/-! ### Picking -/

theorem rotateLeft_eq_rotate {α : Type} (l : List α) (n : Nat) : l.rotateLeft n = l.rotate n := by
  unfold List.rotateLeft
  dsimp only
  split
  · -- a list of at most one node is its own rotation
    rename_i h
    rcases l with _ | ⟨a, _ | ⟨b, l⟩⟩
    · simp
    · simp
    · simp at h
  · rw [List.rotate_eq_drop_append_take_mod]

theorem orderCandidates_idle_pairwise (shuffle : Shuffle) (cs : List NodeInfo) (cursor : Nat) :
    (orderCandidates shuffle cs .idlePreferred cursor).Pairwise fun a b =>
      a.activeExecutions < b.activeExecutions ∨
        a.activeExecutions = b.activeExecutions ∧ a.id ≤ b.id := by
  have h := pairwise_sortBy
    (fun a b : NodeInfo => decide (a.activeExecutions < b.activeExecutions ∨
      (a.activeExecutions = b.activeExecutions ∧ a.id ≤ b.id)))
    (fun a b c hab hbc => by simp only [decide_eq_true_eq] at *; omega)
    (fun a b => by simp only [decide_eq_true_eq]; omega) cs
  exact h.imp of_decide_eq_true

namespace Database

variable {db : Database} {shuffle : Shuffle} {req : SelectionRequest} {cursor : Nat}

theorem picks_sublist_order :
    (db.picks shuffle req cursor).Sublist (orderCandidates shuffle (db.admitted req) req.strategy cursor) :=
  List.take_sublist _ _

theorem mem_admitted_of_mem_picks {m : NodeInfo} (hm : m ∈ db.picks shuffle req cursor) :
    m ∈ db.admitted req :=
  (orderCandidates_perm _ _ _ _).subset (picks_sublist_order.subset hm)

theorem picks_nodup (hdb : db.NodeIdsUnique) : (db.picks shuffle req cursor).Nodup :=
  picks_sublist_order.nodup ((orderCandidates_perm _ _ _ _).nodup_iff.mpr
    (admitted_ids_nodup hdb).of_map)

theorem length_picks :
    (db.picks shuffle req cursor).length = min (max req.count 1) (db.admitted req).length := by
  rw [picks, List.length_take, (orderCandidates_perm _ _ _ _).length_eq]

theorem picks_roundRobin (hrr : req.strategy = .roundRobin) :
    db.picks shuffle req cursor = ((db.admitted req).rotate cursor).take (max req.count 1) := by
  rw [picks, hrr, orderCandidates, rotateLeft_eq_rotate, List.rotate_mod]

/-- Round robin picks the cyclic window of the candidates that starts at the cursor. -/
theorem getElem?_picks_roundRobin (hrr : req.strategy = .roundRobin) {i : Nat}
    (hi : i < (db.picks shuffle req cursor).length) :
    (db.picks shuffle req cursor)[i]? = (db.admitted req)[(cursor + i) % (db.admitted req).length]? := by
  have hlen := @length_picks db shuffle req cursor
  have hk : i < max req.count 1 := by omega
  have hl : i < (db.admitted req).length := by omega
  rw [picks_roundRobin hrr, List.getElem?_take, if_pos hk, List.getElem?_rotate hl,
    Nat.add_comm i cursor]

theorem picks_idle_sorted (hdb : db.NodeIdsUnique) (hidle : req.strategy = .idlePreferred) :
    (db.picks shuffle req cursor).Pairwise NodeInfo.LoadBefore := by
  have hne : (orderCandidates shuffle (db.admitted req) .idlePreferred cursor).Pairwise
      fun a b => a.id ≠ b.id :=
    List.pairwise_map.mp ((admitted_ids_nodup hdb).perm
      ((orderCandidates_perm _ _ _ _).map _).symm)
  have hsorted : (orderCandidates shuffle (db.admitted req) req.strategy cursor).Pairwise
      NodeInfo.LoadBefore := by
    rw [hidle]
    refine ((orderCandidates_idle_pairwise shuffle (db.admitted req) cursor).and hne).imp ?_
    rintro a b ⟨hle, hid⟩
    unfold NodeInfo.LoadBefore
    omega
  exact hsorted.sublist picks_sublist_order

/-- Every node idle-preferred selection picks comes before every candidate it leaves. -/
theorem picks_idle_least (hdb : db.NodeIdsUnique) (hidle : req.strategy = .idlePreferred)
    {a b : NodeInfo} (ha : a ∈ db.picks shuffle req cursor) (hb : b ∈ db.admitted req)
    (hbn : b ∉ db.picks shuffle req cursor) : a.LoadBefore b := by
  set sorted := orderCandidates shuffle (db.admitted req) req.strategy cursor
  have hperm : sorted.Perm (db.admitted req) := orderCandidates_perm _ _ _ _
  have hdrop : b ∈ sorted.drop (max req.count 1) := by
    have hbs : b ∈ sorted.take (max req.count 1) ++ sorted.drop (max req.count 1) := by
      rw [List.take_append_drop]
      exact hperm.symm.subset hb
    rcases List.mem_append.mp hbs with h | h
    · exact absurd h hbn
    · exact h
  have hord : sorted.Pairwise fun a b =>
      a.activeExecutions < b.activeExecutions ∨
        a.activeExecutions = b.activeExecutions ∧ a.id ≤ b.id := by
    simpa only [sorted, hidle] using orderCandidates_idle_pairwise shuffle (db.admitted req) cursor
  rw [← List.take_append_drop (max req.count 1) sorted, List.pairwise_append] at hord
  have hle := hord.2.2 a ha b hdrop
  have hid : a.id ≠ b.id := fun h => hbn (by
    rwa [List.inj_on_of_nodup_map (admitted_ids_nodup hdb) (mem_admitted_of_mem_picks ha) hb h]
      at ha)
  unfold NodeInfo.LoadBefore
  omega

end Database

/-! ### Answering -/

section Answer

variable {db : Database} {shuffle : Shuffle} {req : SelectionRequest} {now windowMs : Int}
  {cursor : Nat}

theorem select_of_admitted_eq_nil (h : db.admitted req = []) :
    select shuffle db now windowMs cursor req = (.error (.noNodes req.pool.emptyReason), cursor) := by
  unfold select
  dsimp only
  generalize hcs : List.filter _ (db.candidates req.pool) = cs
  have hcs' : cs = db.admitted req := by
    rw [← hcs]
    unfold Database.admitted SelectionRequest.passes
    congr 1
    funext n
    cases req.available <;> rfl
  subst hcs'
  rw [h]
  rfl

/-- A round-robin selection that finds candidates moves the cursor on by the number it picks,
modulo 2^64; every other selection leaves it where it was. -/
theorem select_snd : (select shuffle db now windowMs cursor req).2 =
    if req.strategy = .roundRobin ∧ db.admitted req ≠ [] then
      (cursor + max req.count 1) % Nat.pow 2 64 else cursor := by
  unfold select
  dsimp only
  generalize hcs : List.filter _ (db.candidates req.pool) = cs
  have hcs' : cs = db.admitted req := by
    rw [← hcs]
    unfold Database.admitted SelectionRequest.passes
    congr 1
    funext n
    cases req.available <;> rfl
  subst hcs'
  by_cases hne : db.admitted req = []
  · rw [if_pos (by simp [hne]), if_neg (by simp [hne])]
  · rw [if_neg (by simpa using hne)]
    cases hs : req.strategy with
    | roundRobin =>
      rw [if_pos (show SelectionStrategy.roundRobin = .roundRobin ∧ db.admitted req ≠ [] from
        ⟨rfl, hne⟩)]
      split
      · split <;> rfl
      · rfl
    | idlePreferred =>
      rw [if_neg (show ¬(SelectionStrategy.idlePreferred = .roundRobin ∧ _) by simp)]
      split
      · split <;> rfl
      · rfl
    | random =>
      rw [if_neg (show ¬(SelectionStrategy.random = .roundRobin ∧ _) by simp)]
      split
      · split <;> rfl
      · rfl

theorem liveIds_contains (hdb : db.NodeIdsUnique) {picked : List NodeInfo}
    (hsub : ∀ m ∈ picked, m ∈ db.admitted req) {m : NodeInfo} (hm : m ∈ picked) :
    (db.liveIds (picked.map (·.id)) windowMs now).contains m.id =
      !m.silentSince (wrapI64 (now - windowMs)) := by
  obtain ⟨n, hn, ⟨he, -⟩, hmn⟩ := Database.mem_admitted.mp (hsub m hm)
  have hid : m.id = n.id := by rw [hmn]; rfl
  have hhb : m.lastHeartbeatMs = n.lastHeartbeatMs := by rw [hmn]; rfl
  have hiff : (db.nodes.any fun n' => n'.id == n.id && n'.enabled &&
      decide (n'.lastHeartbeatMs ≥ wrapI64 (now - windowMs))) =
        decide (n.lastHeartbeatMs ≥ wrapI64 (now - windowMs)) := by
    apply Bool.eq_iff_iff.mpr
    simp only [List.any_eq_true, Bool.and_eq_true, beq_iff_eq, decide_eq_true_eq]
    constructor
    · rintro ⟨n', hn', ⟨hid', -⟩, hhb'⟩
      rwa [List.inj_on_of_nodup_map hdb hn' hn hid'] at hhb'
    · intro hhb'
      exact ⟨n, hn, ⟨rfl, he⟩, hhb'⟩
  unfold Database.liveIds NodeInfo.silentSince
  rw [Bool.eq_iff_iff, List.contains_iff_mem]
  simp only [List.mem_filter, List.mem_map_of_mem hm, true_and]
  rw [hid, hiff, hhb]
  simp only [decide_eq_true_eq, ge_iff_le, Bool.not_eq_true', decide_eq_false_iff_not, not_lt]

theorem select_fst_of_admitted_ne_nil (hdb : db.NodeIdsUnique) (h : db.admitted req ≠ []) :
    (select shuffle db now windowMs cursor req).1 =
      liveAnswer req.requireLive (wrapI64 (now - windowMs)) (db.picks shuffle req cursor) := by
  have hsub : ∀ m ∈ db.picks shuffle req cursor, m ∈ db.admitted req :=
    fun m hm => Database.mem_admitted_of_mem_picks hm
  have hfind : (db.picks shuffle req cursor).find? (fun n =>
      !(db.liveIds ((db.picks shuffle req cursor).map (·.id)) windowMs now).contains n.id) =
        (db.picks shuffle req cursor).find? (NodeInfo.silentSince (wrapI64 (now - windowMs))) :=
    List.find?_congr fun m hm => by rw [liveIds_contains hdb hsub hm, Bool.not_not]
  unfold select
  dsimp only
  generalize hcs : List.filter _ (db.candidates req.pool) = cs
  have hcs' : cs = db.admitted req := by
    rw [← hcs]
    unfold Database.admitted SelectionRequest.passes
    congr 1
    funext n
    cases req.available <;> rfl
  subst hcs'
  rw [if_neg (by simpa using h)]
  have hpicks : ∀ at_, (req.strategy = .roundRobin → at_ = cursor) →
      (orderCandidates shuffle (db.admitted req) req.strategy at_).take (max req.count 1) =
        db.picks shuffle req cursor := by
    intro at_ hat
    unfold Database.picks
    cases hs : req.strategy with
    | roundRobin => rw [hat hs]
    | idlePreferred => rfl
    | random => rfl
  unfold liveAnswer
  rw [hpicks _ (fun hs => by rw [hs]), hfind]
  by_cases hl : req.requireLive = true
  · rw [if_pos hl, if_pos hl]
    cases List.find? (NodeInfo.silentSince (wrapI64 (now - windowMs))) (db.picks shuffle req cursor) <;> rfl
  · rw [if_neg hl, if_neg hl]
    rfl

theorem liveAnswer_ne_noNodes (requireLive : Bool) (cutoff : Int) (picked : List NodeInfo)
    (reason : String) : liveAnswer requireLive cutoff picked ≠ .error (.noNodes reason) := by
  unfold liveAnswer
  cases (if requireLive then picked.find? (NodeInfo.silentSince cutoff) else none) <;> simp

theorem liveAnswer_eq_ok {requireLive : Bool} {cutoff : Int} {picked p : List NodeInfo}
    (h : liveAnswer requireLive cutoff picked = .ok p) :
    p = picked ∧ (requireLive = true → ∀ m ∈ picked, m.silentSince cutoff = false) := by
  unfold liveAnswer at h
  by_cases hl : requireLive = true
  · rw [if_pos hl] at h
    cases hf : picked.find? (NodeInfo.silentSince cutoff) with
    | none =>
      rw [hf] at h
      cases h
      exact ⟨rfl, fun _ m hm => by simpa using List.find?_eq_none.mp hf m hm⟩
    | some dead =>
      rw [hf] at h
      cases h
  · rw [if_neg hl] at h
    cases h
    exact ⟨rfl, fun h' => absurd h' hl⟩

end Answer

/-- What a selection answers, over the candidates of its request (`Database.admitted`) and the
nodes it picks (`Database.picks`). -/
structure SelectionAnswered (shuffle : Shuffle) (db : Database) (now windowMs : Int)
    (cursor : Nat) (req : SelectionRequest) : Prop where
  /-- The candidates are the nodes the request admits, in increasing id order. -/
  mem_admitted : ∀ m, m ∈ db.admitted req ↔ ∃ n ∈ db.nodes, req.Admits n ∧ m = db.info n
  admitted_sorted : (db.admitted req).Pairwise fun a b => a.id < b.id
  /-- The selection fails for want of nodes exactly when the request admits none. -/
  noNodes_iff : (∃ reason, (select shuffle db now windowMs cursor req).1 = .error (.noNodes reason)) ↔
    ∀ n ∈ db.nodes, ¬ req.Admits n
  /-- It picks distinct candidates, `max count 1` of them or all there are. -/
  picks_nodup : (db.picks shuffle req cursor).Nodup
  picks_admitted : ∀ m ∈ db.picks shuffle req cursor, m ∈ db.admitted req
  length_picks : (db.picks shuffle req cursor).length = min (max req.count 1) (db.admitted req).length
  /-- Idle-preferred selection picks the least loaded, ties to the lower id, in that order. -/
  idle_sorted : req.strategy = .idlePreferred → (db.picks shuffle req cursor).Pairwise NodeInfo.LoadBefore
  idle_least : req.strategy = .idlePreferred → ∀ a ∈ db.picks shuffle req cursor,
    ∀ b ∈ db.admitted req, b ∉ db.picks shuffle req cursor → a.LoadBefore b
  /-- Round robin picks the cyclic window of the candidates starting at the cursor. -/
  roundRobin_window : req.strategy = .roundRobin → ∀ i < (db.picks shuffle req cursor).length,
    (db.picks shuffle req cursor)[i]? = (db.admitted req)[(cursor + i) % (db.admitted req).length]?
  /-- With candidates, the answer is the picks, or with liveness required the failure of the
  first picked node silent since `now - windowMs`. -/
  answer : db.admitted req ≠ [] → (select shuffle db now windowMs cursor req).1 =
    liveAnswer req.requireLive (wrapI64 (now - windowMs)) (db.picks shuffle req cursor)
  ok_live : ∀ picked, (select shuffle db now windowMs cursor req).1 = .ok picked →
    picked = db.picks shuffle req cursor ∧ (req.requireLive = true →
      ∀ m ∈ picked, m.silentSince (wrapI64 (now - windowMs)) = false)

/-- The selection contract, for every registry keyed by node id, every request, every cursor and
every shuffle. -/
theorem select_answered (shuffle : Shuffle) (db : Database) (hdb : db.NodeIdsUnique)
    (now windowMs : Int) (cursor : Nat) (req : SelectionRequest) :
    SelectionAnswered shuffle db now windowMs cursor req := by
  have hanswer : db.admitted req ≠ [] → (select shuffle db now windowMs cursor req).1 =
      liveAnswer req.requireLive (wrapI64 (now - windowMs)) (db.picks shuffle req cursor) :=
    select_fst_of_admitted_ne_nil hdb
  refine ⟨fun m => Database.mem_admitted, Database.admitted_sorted hdb, ?_,
    Database.picks_nodup hdb, fun m hm => Database.mem_admitted_of_mem_picks hm,
    Database.length_picks, Database.picks_idle_sorted hdb,
    fun hidle a ha b hb hbn => Database.picks_idle_least hdb hidle ha hb hbn,
    fun hrr i hi => Database.getElem?_picks_roundRobin hrr hi, hanswer, ?_⟩
  · rw [← Database.admitted_eq_nil_iff]
    constructor
    · rintro ⟨reason, hr⟩
      by_contra hne
      exact liveAnswer_ne_noNodes _ _ _ reason ((hanswer hne).symm.trans hr)
    · intro h
      exact ⟨_, by rw [select_of_admitted_eq_nil h]⟩
  · intro picked hok
    by_cases hne : db.admitted req = []
    · rw [select_of_admitted_eq_nil hne] at hok
      cases hok
    · obtain ⟨rfl, hlive⟩ := liveAnswer_eq_ok ((hanswer hne).symm.trans hok)
      exact ⟨rfl, hlive⟩

def nodeTrio : Database :=
  { nodes := [⟨1, some 1, "n1", "10.0.0.1", true, 0⟩, ⟨2, some 1, "n2", "10.0.0.1", true, 0⟩,
              ⟨3, some 1, "n3", "10.0.0.2", true, 0⟩] }

theorem nodeTrio_idle_selection_answered :
    nodeTrio.NodeIdsUnique ∧ SelectionAnswered .keep nodeTrio 1750000000000 30000 0
      { count := 2, pool := .tenant 1, exclude := [2], strategy := .idlePreferred,
        requireLive := true } :=
  ⟨by unfold Database.NodeIdsUnique; decide,
    select_answered .keep nodeTrio (by unfold Database.NodeIdsUnique; decide) _ _ _ _⟩

end LoadDispatch
