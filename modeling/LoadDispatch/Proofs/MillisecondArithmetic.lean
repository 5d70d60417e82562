import LoadDispatch.Proofs.Lock
import LoadDispatch.Proofs.Settled

/-!
Durations are configured in whole seconds and reach the clock in milliseconds through 64-bit
arithmetic. When the values fit the arithmetic is exact; past that bound it wraps, and
`239807672958224171` seconds becomes `-8` milliseconds.
-/
namespace LoadDispatch

namespace Database

/-! ### The expiry of a lock -/

theorem lockHolder_tryAcquire {db : Database} {key token : String} {ttlSecs : Nat} {now : Int}
    (h : (db.tryAcquire key token ttlSecs now).1 = true) :
    (db.tryAcquire key token ttlSecs now).2.lockHolder key now =
      if wrapI64 (now + wrapI64 (ttlSecs * 1000)) > now then some token else none := by
  unfold lockHolder
  rw [tryAcquire_row h]

/-- When the lifetime and the expiry fit in 64 bits, an acquire that succeeds stores the exact
expiry, and a lock taken for at least a second is held at the instant it was taken. -/
theorem tryAcquire_exact {db : Database} {key token : String} {ttlSecs : Nat} {now : Int}
    (h : (db.tryAcquire key token ttlSecs now).1 = true) (hlo : -2 ^ 63 ≤ now)
    (httl : (ttlSecs * 1000 : Int) < 2 ^ 63) (hhi : now + ttlSecs * 1000 < 2 ^ 63) :
    (db.tryAcquire key token ttlSecs now).2.locks.find? (·.key == key) =
        some ⟨key, token, now + ttlSecs * 1000⟩ ∧
      (0 < ttlSecs → (db.tryAcquire key token ttlSecs now).2.lockHolder key now = some token) := by
  have hexp := expiry_of_fits hlo httl hhi
  refine ⟨by rw [tryAcquire_row h, hexp], fun hpos => ?_⟩
  have hlater : now + ttlSecs * 1000 > now := by
    have : (0 : Int) < ttlSecs := by exact_mod_cast hpos
    linarith
  rw [lockHolder_tryAcquire h, hexp, if_pos hlater]

/-! ### The liveness cutoff -/

theorem cutoff_of_fits {now : Int} {windowSecs : Nat} (hwin : (windowSecs * 1000 : Int) < 2 ^ 63)
    (hlo : -2 ^ 63 ≤ now - windowSecs * 1000) (hhi : now < 2 ^ 63) :
    wrapI64 (now - wrapI64 (windowSecs * 1000)) = now - windowSecs * 1000 := by
  have hnat : (0 : Int) ≤ windowSecs * 1000 := by positivity
  rw [wrapI64_of_fits (by linarith) hwin]
  exact wrapI64_of_fits hlo (by linarith)

/-- When the window and the cutoff fit in 64 bits, the live ids are exactly the enabled nodes
heard at or after `now - window`, and a node heard at the current instant is one of them. -/
theorem liveIds_exact {db : Database} {now : Int} {windowSecs : Nat}
    (hwin : (windowSecs * 1000 : Int) < 2 ^ 63) (hlo : -2 ^ 63 ≤ now - windowSecs * 1000)
    (hhi : now < 2 ^ 63) (ids : List Int) :
    db.liveIds ids (wrapI64 (windowSecs * 1000)) now = ids.filter (fun id => db.nodes.any fun n =>
        n.id == id && n.enabled && decide (now - windowSecs * 1000 ≤ n.lastHeartbeatMs)) ∧
      ∀ n ∈ db.nodes, n.enabled = true → n.lastHeartbeatMs = now →
        n.id ∈ db.liveIds [n.id] (wrapI64 (windowSecs * 1000)) now := by
  have hcut := cutoff_of_fits hwin hlo hhi
  have hnat : (0 : Int) ≤ windowSecs * 1000 := by positivity
  refine ⟨by simp only [liveIds, hcut, ge_iff_le], fun n hn hen hnow => ?_⟩
  simp only [liveIds, hcut, List.mem_filter, List.mem_singleton, true_and, List.any_eq_true,
    Bool.and_eq_true, beq_iff_eq, decide_eq_true_eq]
  exact ⟨n, hn, ⟨rfl, hen⟩, by linarith⟩

/-! ### Durations of any configured length -/

/-- Seconds become exact milliseconds whenever the values fit in 64 bits: a lock taken for at least
a second is held at the instant it was taken, and the live ids are exactly the enabled nodes heard
at or after `now - window * 1000`. -/
theorem durations_exact_when_they_fit (db : Database) (key token : String)
    (ttlSecs windowSecs : Nat) (now : Int) (ids : List Int) :
    ((db.tryAcquire key token ttlSecs now).1 = true → -2 ^ 63 ≤ now →
      (ttlSecs * 1000 : Int) < 2 ^ 63 → now + ttlSecs * 1000 < 2 ^ 63 →
      (db.tryAcquire key token ttlSecs now).2.locks.find? (·.key == key) =
          some ⟨key, token, now + ttlSecs * 1000⟩ ∧
        (0 < ttlSecs → (db.tryAcquire key token ttlSecs now).2.lockHolder key now = some token)) ∧
    ((windowSecs * 1000 : Int) < 2 ^ 63 → -2 ^ 63 ≤ now - windowSecs * 1000 → now < 2 ^ 63 →
      db.liveIds ids (wrapI64 (windowSecs * 1000)) now = ids.filter (fun id => db.nodes.any
          fun n => n.id == id && n.enabled && decide (now - windowSecs * 1000 ≤ n.lastHeartbeatMs)) ∧
        ∀ n ∈ db.nodes, n.enabled = true → n.lastHeartbeatMs = now →
          n.id ∈ db.liveIds [n.id] (wrapI64 (windowSecs * 1000)) now) :=
  ⟨fun h hlo httl hhi => tryAcquire_exact h hlo httl hhi,
    fun hwin hlo hhi => liveIds_exact hwin hlo hhi ids⟩

/-- With the default lifetime of two minutes and window of thirty seconds, the restart lock taken
at the clock is held at that instant and node 1, heard at the clock, is live. -/
theorem defaultDurations_hold_lock_and_node :
    (({ nodes := [nodeOne] } : Database).tryAcquire (restartKey 1) "1" 120 1750000000000).2.lockHolder
        (restartKey 1) 1750000000000 = some "1" ∧
      nodeOne.id ∈ ({ nodes := [nodeOne] } : Database).liveIds [nodeOne.id] (wrapI64 (30 * 1000))
        1750000000000 :=
  ⟨((durations_exact_when_they_fit { nodes := [nodeOne] } (restartKey 1) "1" 120 30 1750000000000
      []).1 (by decide) (by norm_num) (by norm_num) (by norm_num)).2 (by norm_num),
    ((durations_exact_when_they_fit { nodes := [nodeOne] } (restartKey 1) "1" 120 30 1750000000000
      []).2 (by norm_num) (by norm_num) (by norm_num)).2 nodeOne (by simp) rfl rfl⟩

/-- Past 64 bits the milliseconds wrap: `239807672958224171` seconds is `-8` milliseconds, so a lock
taken for that long is free at once and a node heard now is not live. -/
theorem wrappedDuration_hides_holder_and_node :
    (({} : Database).tryAcquire "k" "a" 239807672958224171 1750000000000).1 = true ∧
      (({} : Database).tryAcquire "k" "a" 239807672958224171 1750000000000).2.lockHolder "k"
        1750000000000 = none ∧
      ({ nodes := [nodeOne] } : Database).liveIds [nodeOne.id]
        (wrapI64 (239807672958224171 * 1000)) 1750000000000 = [] := by
  decide

end Database

end LoadDispatch
