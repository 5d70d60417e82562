import LoadDispatch.Proofs.Operations

/-!
The shares of a dispatch round: each of the four thread counts is divided among the round's nodes on
its own, the first also taking the remainder, so over distinct nodes the shares add up to the whole
load and none exceeds its count.
-/
namespace LoadDispatch

/-- The four counts a shard divides among nodes. -/
inductive LoadCount where
  | threads
  | iterations
  | rampUp
  | rampDown
  deriving DecidableEq, Repr

namespace ThreadConfig

def count (c : ThreadConfig) : LoadCount → Nat
  | .threads => c.threadCount
  | .iterations => c.iterationCount
  | .rampUp => (c.ramp.map (·.rampUpThreads)).getD 0
  | .rampDown => (c.ramp.map (·.rampDownThreads)).getD 0

theorem shard_of_le_one (c : ThreadConfig) {n : Nat} (hn : n ≤ 1) (first : Bool) :
    c.shard n first = c := by
  simp [shard, hn]

/-- Sharding divides every count the same way, for any number of nodes from one up. -/
theorem count_shard (c : ThreadConfig) {n : Nat} (hn : 1 ≤ n) (first : Bool) (k : LoadCount) :
    (c.shard n first).count k = shareOf n first (c.count k) := by
  by_cases h1 : n ≤ 1
  · -- a single node: its share of a count is the count itself
    have hn1 : n = 1 := by omega
    subst hn1
    rw [shard_of_le_one c h1]
    cases first <;> simp [shareOf, Nat.mod_one]
  · cases k <;> cases hr : c.ramp <;> simp [shard, h1, count, hr, shareOf]

theorem shard_ramp_isNone (c : ThreadConfig) (n : Nat) (first : Bool) :
    (c.shard n first).ramp.isNone = c.ramp.isNone := by
  unfold shard
  split
  · rfl
  · cases c.ramp <;> rfl

theorem shard_rampSecs (c : ThreadConfig) (n : Nat) (first : Bool) :
    (c.shard n first).ramp.map (fun r => (r.rampUpSecs, r.rampDownSecs)) =
      c.ramp.map (fun r => (r.rampUpSecs, r.rampDownSecs)) := by
  unfold shard
  split
  · rfl
  · cases c.ramp <;> rfl

theorem shard_durationSecs (c : ThreadConfig) (n : Nat) (first : Bool) :
    (c.shard n first).durationSecs = c.durationSecs := by
  unfold shard
  split <;> rfl

end ThreadConfig

/-- A share never exceeds the count it is taken from, so it fits wherever the count fits. -/
theorem shareOf_le (n : Nat) (first : Bool) (v : Nat) : shareOf n first v ≤ v := by
  have hdm := Nat.div_add_mod v n
  cases first with
  | false => exact Nat.div_le_self v n
  | true =>
    rcases Nat.eq_zero_or_pos n with rfl | hn
    · simp [shareOf]
    · have hq : v / n ≤ n * (v / n) := Nat.le_mul_of_pos_left _ hn
      simp only [shareOf, if_true]
      omega

/-- Over distinct nodes the first takes the quotient and the remainder, every other the
quotient, and together they take the whole count. -/
theorem sum_shareOf_round {targets : List Int} (hnd : targets.Nodup) (hne : targets ≠ [])
    (v : Nat) :
    (targets.map fun t => shareOf targets.length (t == targets.headD 0) v).sum = v := by
  obtain ⟨first, rest, rfl⟩ := List.exists_cons_of_ne_nil hne
  have hfirst : first ∉ rest := (List.nodup_cons.mp hnd).1
  have hrest : (rest.map fun t => shareOf (rest.length + 1) (t == first) v) =
      rest.map fun _ => v / (rest.length + 1) := by
    apply List.map_congr_left
    intro t ht
    have hne : (t == first) = false := by
      simp only [beq_eq_false_iff_ne]
      rintro rfl
      exact hfirst ht
    simp [shareOf, hne]
  have hdm : rest.length * (v / (rest.length + 1)) + v / (rest.length + 1) +
      v % (rest.length + 1) = v := by
    rw [← Nat.succ_mul]
    exact Nat.div_add_mod v _
  simp only [List.map_cons, List.headD_cons, List.length_cons, List.sum_cons]
  rw [hrest, List.map_const', List.sum_replicate_nat]
  simp only [shareOf, beq_self_eq_true, if_true]
  omega

namespace ShardPlan

theorem share_over (targets : List Int) (c : ThreadConfig) (t : Int) :
    (ShardPlan.over targets).share c t = c.shard targets.length (t == targets.headD 0) := rfl

theorem count_share_over {targets : List Int} (hne : targets ≠ []) (c : ThreadConfig) (t : Int)
    (k : LoadCount) :
    ((ShardPlan.over targets).share c t).count k =
      if t = targets.headD 0 then c.count k / targets.length + c.count k % targets.length
      else c.count k / targets.length := by
  have hlen : 1 ≤ targets.length := List.length_pos_iff.mpr hne
  rw [share_over, c.count_shard hlen]
  by_cases ht : t = targets.headD 0 <;> simp [shareOf, ht]

/-- Over a round of distinct nodes the shares add up to the whole load, count by count. -/
theorem sum_share_over {targets : List Int} (hnd : targets.Nodup) (hne : targets ≠ [])
    (c : ThreadConfig) (k : LoadCount) :
    (targets.map fun t => ((ShardPlan.over targets).share c t).count k).sum = c.count k := by
  have hlen : 1 ≤ targets.length := List.length_pos_iff.mpr hne
  simp only [share_over, c.count_shard hlen]
  exact sum_shareOf_round hnd hne (c.count k)

theorem share_over_single (t : Int) (c : ThreadConfig) : (ShardPlan.over [t]).share c t = c :=
  c.shard_of_le_one (Nat.le_refl 1) _

end ShardPlan

/-- A traversal in `Except` that succeeds gives one result per element, in order, each a success
of the function on its element. -/
theorem mapM_except_ok {α β ε : Type} {f : α → Except ε β} {g : β → α} {Q : β → Prop}
    (hf : ∀ x y, f x = .ok y → g y = x ∧ Q y) :
    ∀ {xs : List α} {ys : List β}, xs.mapM f = .ok ys → ys.map g = xs ∧ ∀ y ∈ ys, Q y
  | [], ys, h => by
    simp only [List.mapM_nil] at h
    cases h
    simp
  | x :: xs, ys, h => by
    simp only [List.mapM_cons] at h
    rcases hx : f x with e | y
    · simp [hx] at h
      cases h
    · rcases hxs : xs.mapM f with e | ys'
      · simp [hx, hxs] at h
        cases h
      · simp [hx, hxs] at h
        cases h
        obtain ⟨hg, hq⟩ := hf x y hx
        obtain ⟨hmap, hall⟩ := mapM_except_ok hf hxs
        refine ⟨by simp [hg, hmap], ?_⟩
        intro z hz
        rcases List.mem_cons.mp hz with rfl | hz
        · exact hq
        · exact hall z hz

theorem mapError_ok {ε ε' α : Type} {x : Except ε α} {f : ε → ε'} {a : α}
    (h : x.mapError f = .ok a) : x = .ok a := by
  cases x <;> simp_all [Except.mapError]

theorem mapError_error {ε ε' α : Type} {x : Except ε α} {f : ε → ε'} {e' : ε'}
    (h : x.mapError f = .error e') : ∃ e, x = .error e ∧ e' = f e := by
  cases x <;> simp_all [Except.mapError]

namespace Orchestrator

/-- Commands written under a plan: one per target, in order, each a run command carrying the
script with the target's share of the load. -/
theorem shardCommands_ok {exec : Execution} {script : String} {targets : List Int}
    {plan : ShardPlan} {cmds : List (Int × AgentCommand)}
    (h : shardCommands exec script targets plan = .ok cmds) :
    cmds.map (·.1) = targets ∧
      ∀ p ∈ cmds, p.2.action = .run ∧ p.2.executionId = exec.id ∧
        applyThreads script (plan.share exec.shardBase p.1) = .ok p.2.script := by
  refine mapM_except_ok ?_ (mapError_ok h)
  intro node p hp
  rcases ha : applyThreads script (plan.share exec.shardBase node) with e | s <;>
    rw [ha] at hp <;> cases hp
  exact ⟨rfl, rfl, rfl, ha⟩

end Orchestrator

end LoadDispatch
