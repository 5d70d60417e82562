import LoadDispatch.Proofs.RoundEffects
import LoadDispatch.Proofs.Lock

/-!
Broadcast starts of one execution running side by side, each as four steps: checks, acquire of the
restart lock, round and release. Within a lock lifetime no two starts hold the lock at once, so
their rounds never overlap; the checks are not repeated under the lock, so a start may still run its
round after another has released it.
-/
namespace LoadDispatch.Orchestrator

/-- Where a broadcast start stands. -/
inductive StartPhase where
  | fresh
  | checked (exec : Execution)
  | holding (exec : Execution)
  | ranRound (exec : Execution) (r : Except SchedulingFailure (List NodeOutcome))
  | refused (f : SchedulingFailure)
  | turnedAway (exec : Execution)
  | finished (r : Except SchedulingFailure (List NodeOutcome))

namespace StartPhase

def answer? : StartPhase → Option (Except SchedulingFailure (List NodeOutcome))
  | .refused f => some (.error f)
  | .turnedAway exec => some (.error (.inFlight exec.id))
  | .finished r => some r
  | _ => none

def holds : StartPhase → Bool
  | .holding _ | .ranRound _ _ => true
  | _ => false

def outside : StartPhase → Bool
  | .fresh | .checked _ | .refused _ | .turnedAway _ => true
  | _ => false

def lost : StartPhase → Bool
  | .refused _ | .turnedAway _ => true
  | _ => false

def About (e : Int) : StartPhase → Prop
  | .checked x | .holding x | .ranRound x _ | .turnedAway x => x.id = e
  | _ => True

theorem outside_of_lost {p : StartPhase} (h : p.lost = true) : p.outside = true := by
  cases p <;> simp_all [lost, outside]

end StartPhase

/-- One step of a broadcast start on a site. -/
def advance (ctx : RequestContext) (req : StartRequest) : StartPhase → Site → StartPhase × Site
  | .fresh, s => match precheck ctx req s with
    | .error f => (.refused f, s)
    | .ok exec => (.checked exec, s)
  | .checked exec, s =>
    if (acquireRestart s exec).1 then (.holding exec, { s with db := (acquireRestart s exec).2 })
    else (.turnedAway exec, { s with db := (acquireRestart s exec).2 })
  | .holding exec, s =>
    (.ranRound exec (primaryRound ctx exec req s).1, (primaryRound ctx exec req s).2)
  | .ranRound exec r, s => (.finished r, { s with db := releaseRestart s.db exec })
  | .refused f, s => (.refused f, s)
  | .turnedAway exec, s => (.turnedAway exec, s)
  | .finished r, s => (.finished r, s)

/-- The four steps of a start, run back to back on one site, are the broadcast start. -/
theorem advance_four_eq_start (ctx : RequestContext) (req : StartRequest)
    (hb : req.broadcast = true) (s : Site) :
    let p₁ := advance ctx req .fresh s
    let p₂ := advance ctx req p₁.1 p₁.2
    let p₃ := advance ctx req p₂.1 p₂.2
    let p₄ := advance ctx req p₃.1 p₃.2
    p₄.1.answer? = some ((start ctx req).run.run s).1 ∧ p₄.2 = ((start ctx req).run.run s).2 := by
  rw [run_start_broadcast ctx req hb s]
  rcases hpre : precheck ctx req s with f | exec
  · simp [advance, hpre, StartPhase.answer?]
  · by_cases hacq : (acquireRestart s exec).1 = true
    · simp [advance, hpre, hacq, StartPhase.answer?]
    · simp [advance, hpre, hacq, StartPhase.answer?]

/-! ### A step of a start and the lock -/

section Steps

variable {ctx : RequestContext} {req : StartRequest} {s : Site}

theorem advance_config (p : StartPhase) :
    (advance ctx req p s).2.ctl.config = s.ctl.config := by
  cases p with
  | fresh =>
    simp only [advance]
    split <;> rfl
  | checked exec =>
    simp only [advance]
    split <;> rfl
  | holding exec => exact primaryRound_config ctx exec req s
  | ranRound exec r => rfl
  | refused f => rfl
  | turnedAway exec => rfl
  | finished r => rfl

theorem advance_fresh :
    (advance ctx req .fresh s).2 = s ∧ (advance ctx req .fresh s).1.holds = false ∧
      (advance ctx req .fresh s).1.About req.executionId := by
  simp only [advance]
  rcases h : precheck ctx req s with f | exec
  · exact ⟨rfl, rfl, trivial⟩
  · exact ⟨rfl, rfl, Database.execution?_id (precheck_ok h).1⟩

theorem advance_checked_held {exec : Execution} {row : LockRow}
    (hrow : s.db.locks.find? (·.key == restartKey exec.id) = some row)
    (hnow : s.now < row.expiresAtMs) : advance ctx req (.checked exec) s = (.turnedAway exec, s) := by
  have hacq : acquireRestart s exec = (false, s.db) :=
    Database.tryAcquire_of_unexpired hrow hnow _ _
  simp [advance, hacq]

theorem advance_checked_free {exec : Execution}
    (hfree : ∀ row, s.db.locks.find? (·.key == restartKey exec.id) = some row →
      row.expiresAtMs ≤ s.now) :
    (advance ctx req (.checked exec) s).1 = .holding exec ∧
      (advance ctx req (.checked exec) s).2.db = (acquireRestart s exec).2 ∧
      (acquireRestart s exec).2.locks.find? (·.key == restartKey exec.id) =
        some ⟨restartKey exec.id, toString exec.id,
          wrapI64 (s.now + wrapI64 (s.ctl.config.dispatch.lockTtlSecs * 1000))⟩ := by
  have hnone : s.db.lockHolder (restartKey exec.id) s.now = none := by
    unfold Database.lockHolder
    rcases hrow : s.db.locks.find? (·.key == restartKey exec.id) with _ | row
    · simp [hrow]
    · have hle := hfree row hrow
      have hgt : ¬ row.expiresAtMs > s.now := by omega
      simp [hrow, hgt]
  have hacq : (acquireRestart s exec).1 = true :=
    (Database.lockHolder_eq_none_iff _ _ _ _ _).mp hnone
  exact ⟨by simp [advance, hacq], by simp [advance, hacq], Database.tryAcquire_row hacq⟩

theorem advance_holding_locks (exec : Execution) :
    (advance ctx req (.holding exec) s).2.db.locks = s.db.locks :=
  primaryRound_locks ctx exec req s

theorem advance_outside_db {p : StartPhase} (hp : p.outside = true)
    (hp' : (advance ctx req p s).1.outside = true) : (advance ctx req p s).2.db = s.db := by
  cases p with
  | fresh => rw [advance_fresh.1]
  | checked exec =>
    simp only [advance] at hp' ⊢
    by_cases hacq : (acquireRestart s exec).1 = true
    · simp [hacq, StartPhase.outside] at hp'
    · have hfail : (acquireRestart s exec).1 = false := by simpa using hacq
      simp only [hfail, Bool.false_eq_true, if_false]
      exact Database.tryAcquire_db_of_false hfail
  | refused f => rfl
  | turnedAway exec => rfl
  | holding exec => simp [StartPhase.outside] at hp
  | ranRound exec r => simp [StartPhase.outside] at hp
  | finished r => simp [StartPhase.outside] at hp

theorem advance_inside {p : StartPhase} (hp : p.outside = false) :
    (advance ctx req p s).1.outside = false := by
  cases p <;> simp_all [advance, StartPhase.outside]

end Steps

/-! ### Starts side by side -/

structure ControllerInstance where
  ctl : Controller
  siblings : Siblings

structure Start where
  ctx : RequestContext
  req : StartRequest
  inst : Nat
  phase : StartPhase

/-- Instances sharing one database, and the starts they run. -/
structure Cluster where
  db : Database
  instances : List ControllerInstance
  starts : List Start

namespace Cluster

/-- Start `i` takes its next step at time `now` on its instance. -/
def step (c : Cluster) (i : Nat) (now : Int) : Cluster :=
  match c.starts[i]? with
  | none => c
  | some st =>
    match c.instances[st.inst]? with
    | none => c
    | some host =>
      let r := advance st.ctx st.req st.phase ⟨c.db, host.ctl, now, host.siblings⟩
      { db := r.2.db, instances := c.instances.set st.inst { host with ctl := r.2.ctl },
        starts := c.starts.set i { st with phase := r.1 } }

def run (c : Cluster) : List (Nat × Int) → Cluster
  | [] => c
  | (i, now) :: rest => (c.step i now).run rest

theorem run_append (c : Cluster) (l₁ l₂ : List (Nat × Int)) :
    c.run (l₁ ++ l₂) = (c.run l₁).run l₂ := by
  induction l₁ generalizing c with
  | nil => rfl
  | cons p rest ih => exact ih (c.step p.1 p.2)

theorem step_length (c : Cluster) (i : Nat) (now : Int) :
    (c.step i now).starts.length = c.starts.length := by
  unfold step
  split
  · rfl
  · split
    · rfl
    · exact List.length_set

theorem step_other (c : Cluster) {i k : Nat} (hik : i ≠ k) (now : Int) :
    (c.step i now).starts[k]? = c.starts[k]? := by
  unfold step
  split
  · rfl
  · split
    · rfl
    · exact List.getElem?_set_ne hik

theorem step_self {c : Cluster} {i : Nat} {st : Start} (hst : c.starts[i]? = some st) (now : Int) :
    (c.step i now = c ∧ c.instances[st.inst]? = none) ∨
      ∃ host, c.instances[st.inst]? = some host ∧
        (c.step i now).db = (advance st.ctx st.req st.phase ⟨c.db, host.ctl, now, host.siblings⟩).2.db ∧
        (c.step i now).starts[i]? = some { st with phase :=
          (advance st.ctx st.req st.phase ⟨c.db, host.ctl, now, host.siblings⟩).1 } := by
  have hlen : i < c.starts.length := (List.getElem?_eq_some_iff.mp hst).1
  unfold step
  rw [hst]
  dsimp only
  split
  · rename_i hh
    exact .inl ⟨rfl, hh⟩
  · rename_i host hh
    exact .inr ⟨host, hh, rfl, List.getElem?_set_self hlen⟩

end Cluster

/-! ### Mutual exclusion -/

/-- Steps in `[lo, hi)` fall within a lock lifetime, and expiries fit in 64 bits. -/
def LockWindow (lo hi : Int) (ttlSecs : Nat) : Prop :=
  0 ≤ lo ∧ lo ≤ hi ∧ hi ≤ lo + ttlSecs * 1000 ∧ hi + ttlSecs * 1000 < 2 ^ 63

def LockHeld (e hi : Int) (db : Database) : Prop :=
  ∃ row, db.locks.find? (·.key == restartKey e) = some row ∧ row.token = toString e ∧
    hi ≤ row.expiresAtMs

def LockFree (e lo : Int) (db : Database) : Prop :=
  ∀ row, db.locks.find? (·.key == restartKey e) = some row → row.expiresAtMs ≤ lo

theorem LockHeld.of_locks {e hi : Int} {db db' : Database} (h : LockHeld e hi db)
    (hlocks : db'.locks = db.locks) : LockHeld e hi db' := by
  unfold LockHeld
  rw [hlocks]
  exact h

theorem LockFree.of_locks {e lo : Int} {db db' : Database} (h : LockFree e lo db)
    (hlocks : db'.locks = db.locks) : LockFree e lo db' := by
  unfold LockFree
  rw [hlocks]
  exact h

/-- The invariant of starts of execution `e` whose steps fall in `[lo, hi)`: at most one start
holds the lock, the lock is held while one does and free while none does. -/
structure Exclusive (e lo hi : Int) (c : Cluster) : Prop where
  keyed : c.db.LocksKeyed
  window : ∀ h ∈ c.instances, LockWindow lo hi h.ctl.config.dispatch.lockTtlSecs
  about : ∀ (k : Nat) (st : Start), c.starts[k]? = some st → st.req.executionId = e ∧ st.phase.About e
  single : ∀ (k k' : Nat) (st st' : Start), c.starts[k]? = some st → c.starts[k']? = some st' →
    st.phase.holds = true → st'.phase.holds = true → k = k'
  held : ∀ (k : Nat) (st : Start), c.starts[k]? = some st → st.phase.holds = true → LockHeld e hi c.db
  free : (∀ (k : Nat) (st : Start), c.starts[k]? = some st → st.phase.holds = false) → LockFree e lo c.db

theorem getElem?_set_eq_some {α : Type} {l : List α} {i k : Nat} {x a : α}
    (h : (l.set i x)[k]? = some a) : (k = i ∧ a = x) ∨ (k ≠ i ∧ l[k]? = some a) := by
  rw [List.getElem?_set] at h
  by_cases hik : i = k
  · rw [if_pos hik] at h
    split at h
    · exact .inl ⟨hik.symm, (Option.some.inj h).symm⟩
    · cases h
  · rw [if_neg hik] at h
    exact .inr ⟨Ne.symm hik, h⟩

section Update

variable {e lo hi : Int} {c : Cluster} {i : Nat} {st st' : Start} {db' : Database}
  {insts' : List ControllerInstance}

theorem Exclusive.update (hinv : Exclusive e lo hi c) (hst : c.starts[i]? = some st)
    (hkeyed : db'.LocksKeyed)
    (hwin : ∀ h ∈ insts', LockWindow lo hi h.ctl.config.dispatch.lockTtlSecs)
    (hreq : st'.req = st.req) (habout : st'.phase.About e)
    (hsingle : st'.phase.holds = true → ∀ (k : Nat) (a : Start), k ≠ i → c.starts[k]? = some a → a.phase.holds = false)
    (hheld : st'.phase.holds = true → LockHeld e hi db')
    (hothers : (∃ k : Nat, ∃ a : Start, k ≠ i ∧ c.starts[k]? = some a ∧ a.phase.holds = true) → LockHeld e hi db')
    (hfree : st'.phase.holds = false →
      (∀ (k : Nat) (a : Start), k ≠ i → c.starts[k]? = some a → a.phase.holds = false) → LockFree e lo db') :
    Exclusive e lo hi ⟨db', insts', c.starts.set i st'⟩ := by
  refine ⟨hkeyed, hwin, fun k a ha => ?_, fun k k' a a' ha ha' hh hh' => ?_,
    fun k a ha hh => ?_, fun hnone => ?_⟩
  · rcases getElem?_set_eq_some ha with ⟨_, rfl⟩ | ⟨_, ha⟩
    · exact ⟨hreq ▸ (hinv.about i st hst).1, habout⟩
    · exact hinv.about k a ha
  · rcases getElem?_set_eq_some ha with ⟨hk, rfl⟩ | ⟨hk, hka⟩ <;>
      rcases getElem?_set_eq_some ha' with ⟨hk', rfl⟩ | ⟨hk', hka'⟩
    · rw [hk, hk']
    · exact absurd hh' (by simp [hsingle hh k' a' hk' hka'])
    · exact absurd hh (by simp [hsingle hh' k a hk hka])
    · exact hinv.single k k' a a' hka hka' hh hh'
  · rcases getElem?_set_eq_some ha with ⟨_, rfl⟩ | ⟨hk, ha⟩
    · exact hheld hh
    · exact hothers ⟨k, a, hk, ha, hh⟩
  · have hlen : i < c.starts.length := (List.getElem?_eq_some_iff.mp hst).1
    exact hfree (hnone i st' (List.getElem?_set_self hlen))
      fun k a hk ha => hnone k a (by rw [List.getElem?_set_ne (Ne.symm hk)]; exact ha)

theorem Exclusive.quiet (hinv : Exclusive e lo hi c) (hst : c.starts[i]? = some st)
    (hlocks : db'.locks = c.db.locks)
    (hwin : ∀ h ∈ insts', LockWindow lo hi h.ctl.config.dispatch.lockTtlSecs)
    (hreq : st'.req = st.req) (habout : st'.phase.About e)
    (hholds : st'.phase.holds = st.phase.holds) :
    Exclusive e lo hi ⟨db', insts', c.starts.set i st'⟩ := by
  have hkeyed : db'.LocksKeyed := by
    unfold Database.LocksKeyed
    rw [hlocks]
    exact hinv.keyed
  refine hinv.update hst hkeyed hwin hreq habout (fun hh k a hk ha => ?_) (fun hh => ?_)
    (fun ⟨k, a, _, ha, hh⟩ => (hinv.held k a ha hh).of_locks hlocks) (fun hh hothers => ?_)
  · -- the start held before, so no other start did
    rw [hholds] at hh
    cases hka : a.phase.holds
    · rfl
    · exact absurd (hinv.single k i a st ha hst hka hh) hk
  · rw [hholds] at hh
    exact (hinv.held i st hst hh).of_locks hlocks
  · rw [hholds] at hh
    refine (hinv.free fun k a ha => ?_).of_locks hlocks
    by_cases hk : k = i
    · subst hk
      rw [hst] at ha
      cases ha
      exact hh
    · exact hothers k a hk ha

end Update

/-- One step of any start keeps the invariant. -/
theorem Exclusive.step {e lo hi : Int} {c : Cluster} (hinv : Exclusive e lo hi c) (i : Nat)
    {now : Int} (hlo : lo ≤ now) (hhi : now < hi) : Exclusive e lo hi (c.step i now) := by
  unfold Cluster.step
  split
  · exact hinv
  · rename_i st hst
    split
    · exact hinv
    · rename_i host hh
      dsimp only
      have hmem : host ∈ c.instances := List.mem_of_getElem? hh
      obtain ⟨hlo0, _, hspan, hfit⟩ := hinv.window host hmem
      obtain ⟨hreq, habout⟩ := hinv.about i st hst
      have hcfg := @advance_config st.ctx st.req ⟨c.db, host.ctl, now, host.siblings⟩ st.phase
      generalize hr : advance st.ctx st.req st.phase ⟨c.db, host.ctl, now, host.siblings⟩ = r
        at hcfg ⊢
      have hwin : ∀ h ∈ c.instances.set st.inst { host with ctl := r.2.ctl },
          LockWindow lo hi h.ctl.config.dispatch.lockTtlSecs := by
        intro h hh'
        rcases List.mem_or_eq_of_mem_set hh' with hh' | rfl
        · exact hinv.window h hh'
        · simpa [hcfg] using hinv.window host hmem
      -- the step of each phase: the checks and the round leave the lock alone, an acquire takes
      -- it or is turned away, and the release frees it
      cases hp : st.phase with
      | fresh =>
        rw [hp] at hr
        obtain ⟨hsite, hholds, hab⟩ := @advance_fresh st.ctx st.req
          ⟨c.db, host.ctl, now, host.siblings⟩
        rw [hr] at hsite hholds hab
        refine hinv.quiet hst (by rw [hsite]) hwin rfl (hreq ▸ hab) ?_
        rw [hholds]
        simp [hp, StartPhase.holds]
      | checked exec =>
        rw [hp] at hr
        have hid : exec.id = e := by simpa [hp, StartPhase.About] using habout
        by_cases hany : ∃ k : Nat, ∃ a : Start, c.starts[k]? = some a ∧ a.phase.holds = true
        · -- someone holds the lock: the acquire is turned away
          obtain ⟨k, a, ha, hh⟩ := hany
          obtain ⟨row, hrow, _, hexp⟩ := hinv.held k a ha hh
          rw [← hid] at hrow
          rw [advance_checked_held hrow (by simp only; omega)] at hr
          subst hr
          exact hinv.quiet hst rfl hwin rfl (by simp [StartPhase.About, hid])
            (by simp [hp, StartPhase.holds])
        · -- nobody holds it: the acquire takes it until at least `hi`
          have hnone : ∀ (k : Nat) (a : Start), c.starts[k]? = some a → a.phase.holds = false := by
            intro k a ha
            cases h : a.phase.holds
            · rfl
            · exact absurd ⟨k, a, ha, h⟩ hany
          have hfree := hinv.free hnone
          obtain ⟨hphase, hdb, hrow⟩ := @advance_checked_free st.ctx st.req
            ⟨c.db, host.ctl, now, host.siblings⟩ exec
            (fun row h => le_trans (hfree row (hid ▸ h)) hlo)
          rw [hr] at hphase hdb
          have hexp : wrapI64 (now + wrapI64 (host.ctl.config.dispatch.lockTtlSecs * 1000)) =
              now + host.ctl.config.dispatch.lockTtlSecs * 1000 :=
            Database.expiry_of_fits (by linarith) (by linarith) (by linarith)
          have hheld : LockHeld e hi r.2.db := by
            rw [hdb]
            exact ⟨_, hid ▸ hrow, by simp, by simp only [hexp]; linarith⟩
          have hkeyed : r.2.db.LocksKeyed := by
            rw [hdb]
            exact Database.tryAcquire_keyed hinv.keyed _ _ _ _
          refine hinv.update hst hkeyed hwin rfl (by simp [hphase, StartPhase.About, hid])
            (fun _ k a _ ha => hnone k a ha) (fun _ => hheld) (fun _ => hheld)
            (fun hh => by simp [hphase, StartPhase.holds] at hh)
      | holding exec =>
        rw [hp] at hr
        have hlocks := @advance_holding_locks st.ctx st.req
          ⟨c.db, host.ctl, now, host.siblings⟩ exec
        rw [hr] at hlocks
        subst hr
        exact hinv.quiet hst hlocks hwin rfl (by simpa [hp, advance, StartPhase.About] using habout)
          (by simp [hp, advance, StartPhase.holds])
      | ranRound exec r₀ =>
        rw [hp] at hr
        simp only [advance] at hr
        subst hr
        have hid : exec.id = e := by simpa [hp, StartPhase.About] using habout
        have hholds : st.phase.holds = true := by simp [hp, StartPhase.holds]
        obtain ⟨row, hrow, htoken, _⟩ := hinv.held i st hst hholds
        have hrel : (releaseRestart c.db exec).locks.find? (·.key == restartKey e) = none := by
          unfold releaseRestart
          rw [hid, ← htoken]
          exact Database.release_find?_eq_none hinv.keyed hrow
        refine hinv.update hst (Database.release_keyed hinv.keyed _ _) hwin rfl trivial
          (fun hh => by simp [StartPhase.holds] at hh)
          (fun hh => by simp [StartPhase.holds] at hh) (fun ⟨k, a, hk, ha, hh⟩ => ?_)
          (fun _ _ row h => by simp [hrel] at h)
        exact absurd (hinv.single k i a st ha hst hh hholds) hk
      | refused f =>
        rw [hp] at hr
        subst hr
        exact hinv.quiet hst rfl hwin rfl trivial (by simp [hp, advance])
      | turnedAway exec =>
        rw [hp] at hr
        subst hr
        exact hinv.quiet hst rfl hwin rfl (by simpa [hp, advance] using habout)
          (by simp [hp, advance])
      | finished r₀ =>
        rw [hp] at hr
        subst hr
        exact hinv.quiet hst rfl hwin rfl trivial (by simp [hp, advance])

theorem Exclusive.run {e lo hi : Int} {c : Cluster} (hinv : Exclusive e lo hi c) :
    ∀ {sched : List (Nat × Int)}, (∀ p ∈ sched, lo ≤ p.2 ∧ p.2 < hi) →
      Exclusive e lo hi (c.run sched)
  | [], _ => hinv
  | (i, now) :: rest, htimes => by
    obtain ⟨hlo, hhi⟩ := htimes (i, now) (List.mem_cons_self ..)
    exact Exclusive.run (hinv.step i hlo hhi) fun p hp => htimes p (List.mem_cons_of_mem _ hp)

/-! ### Starts that lose change nothing -/

/-- A start past the lock stays past it through any schedule. -/
theorem Cluster.run_inside {c : Cluster} {k : Nat} {st : Start} (hst : c.starts[k]? = some st)
    (hin : st.phase.outside = false) :
    ∀ sched : List (Nat × Int), ∃ st', (c.run sched).starts[k]? = some st' ∧
      st'.phase.outside = false
  | [] => ⟨st, hst, hin⟩
  | (i, now) :: rest => by
    by_cases hik : i = k
    · subst hik
      rcases c.step_self hst now with ⟨hc, _⟩ | ⟨host, _, _, hst'⟩
      · rw [Cluster.run, hc]
        exact Cluster.run_inside hst hin rest
      · exact Cluster.run_inside hst' (advance_inside hin) rest
    · rw [← c.step_other hik now] at hst
      exact Cluster.run_inside hst hin rest

theorem Cluster.run_getElem?_isSome {c : Cluster} {k : Nat} :
    ∀ {sched : List (Nat × Int)}, ((c.run sched).starts[k]?).isSome → (c.starts[k]?).isSome
  | [], h => h
  | (i, now) :: rest, h => by
    have h' := Cluster.run_getElem?_isSome (c := c.step i now) h
    rw [Option.isSome_iff_exists] at h' ⊢
    obtain ⟨a, ha⟩ := h'
    have hlen : k < (c.step i now).starts.length := (List.getElem?_eq_some_iff.mp ha).1
    rw [c.step_length] at hlen
    exact ⟨_, List.getElem?_eq_getElem hlen⟩

/-- Every step of a start that ends refused or turned away leaves the database as it was. -/
theorem Cluster.lost_steps_quiet {c : Cluster} {sched : List (Nat × Int)} {k : Nat} {st : Start}
    (hend : (c.run sched).starts[k]? = some st) (hlost : st.phase.lost = true)
    {n : Nat} (hn : n < sched.length) (hk : sched[n].1 = k) :
    ((c.run (sched.take n)).step k sched[n].2).db = (c.run (sched.take n)).db := by
  have hsplit : c.run sched =
      (((c.run (sched.take n)).step k sched[n].2).run (sched.drop (n + 1))) := by
    conv_lhs => rw [← List.take_append_drop n sched, List.drop_eq_getElem_cons hn]
    rw [Cluster.run_append, ← hk]
    rfl
  set cn := c.run (sched.take n) with hcn
  obtain ⟨stn, hstn⟩ : ∃ stn, cn.starts[k]? = some stn := by
    have hsome : ((cn.step k sched[n].2).starts[k]?).isSome :=
      @Cluster.run_getElem?_isSome _ _ (sched.drop (n + 1)) (by rw [← hsplit, hend]; rfl)
    have hlen : k < (cn.step k sched[n].2).starts.length := by
      obtain ⟨a, ha⟩ := Option.isSome_iff_exists.mp hsome
      exact (List.getElem?_eq_some_iff.mp ha).1
    rw [cn.step_length] at hlen
    exact ⟨_, List.getElem?_eq_getElem hlen⟩
  have hout_end : st.phase.outside = true := StartPhase.outside_of_lost hlost
  rcases cn.step_self hstn sched[n].2 with ⟨hc, _⟩ | ⟨host, _, hdb, hst'⟩
  · rw [hc]
  · rw [hdb]
    have hout_after : (advance stn.ctx stn.req stn.phase
        ⟨cn.db, host.ctl, sched[n].2, host.siblings⟩).1.outside = true := by
      cases h : (advance stn.ctx stn.req stn.phase ⟨cn.db, host.ctl, sched[n].2, host.siblings⟩).1.outside
      · obtain ⟨st', hst'', hin⟩ := Cluster.run_inside hst' (by simpa using h) (sched.drop (n + 1))
        rw [← hsplit, hend] at hst''
        cases hst''
        rw [hout_end] at hin
        cases hin
      · rfl
    have hout_before : stn.phase.outside = true := by
      cases h : stn.phase.outside
      · have := @advance_inside stn.ctx stn.req
          ⟨cn.db, host.ctl, sched[n].2, host.siblings⟩ _ h
        rw [hout_after] at this
        cases this
      · rfl
    exact advance_outside_db hout_before hout_after

/-! ### The theorem -/

/-- Broadcast starts of one execution taking their steps in any order within a lock lifetime never
hold its restart lock two at a time, so no two rounds overlap; and every step of a start refused by
its checks or turned away by the lock leaves the database as it was. -/
theorem starts_hold_lock_one_at_a_time (e lo hi : Int) (c : Cluster) (hkeyed : c.db.LocksKeyed)
    (hfree : LockFree e lo c.db)
    (hwin : ∀ h ∈ c.instances, LockWindow lo hi h.ctl.config.dispatch.lockTtlSecs)
    (hstarts : ∀ st ∈ c.starts, st.req.executionId = e ∧ st.phase = .fresh)
    (sched : List (Nat × Int)) (htimes : ∀ p ∈ sched, lo ≤ p.2 ∧ p.2 < hi) :
    (∀ (k k' : Nat) (st st' : Start), (c.run sched).starts[k]? = some st → (c.run sched).starts[k']? = some st' →
      st.phase.holds = true → st'.phase.holds = true → k = k') ∧
    (∀ (k : Nat) (st : Start), (c.run sched).starts[k]? = some st → st.phase.lost = true →
      ∀ n (hn : n < sched.length), sched[n].1 = k →
        ((c.run (sched.take n)).step k sched[n].2).db = (c.run (sched.take n)).db) := by
  have hfresh : ∀ (k : Nat) (st : Start), c.starts[k]? = some st → st.phase = .fresh := fun k st h =>
    (hstarts st (List.mem_of_getElem? h)).2
  have hinit : Exclusive e lo hi c :=
    { keyed := hkeyed
      window := hwin
      about := fun k st h => ⟨(hstarts st (List.mem_of_getElem? h)).1, by simp [hfresh k st h,
        StartPhase.About]⟩
      single := fun k _ st _ h _ hh _ => by simp [hfresh k st h, StartPhase.holds] at hh
      held := fun k st h hh => by simp [hfresh k st h, StartPhase.holds] at hh
      free := fun _ => hfree }
  exact ⟨(hinit.run htimes).single, fun k st hend hlost n hn hk =>
    Cluster.lost_steps_quiet hend hlost hn hk⟩

def pendingRow : ExecutionRow :=
  { id := 1, tenantId := 1, scriptType := .performance, scriptSourceId := none, status := .pending,
    threads := { threadCount := 4, iterationCount := 10 }, originalThreads := none, trial := false,
    debug := false, nodeCount := 1, nodePool := none, strategy := none, script := "{}",
    indicator := none }

def twinStarts : Cluster :=
  { db := { executions := [pendingRow] }
    instances := [⟨{ config := {}, router := { timeoutMs := 0, tailChars := 0 } }, .unreachable⟩]
    starts := [⟨.system, { executionId := 1 }, 0, .fresh⟩, ⟨.system, { executionId := 1 }, 0, .fresh⟩] }

/-- The two starts taking turns step by step within two minutes hold the lock one at a time. -/
theorem twinStarts_alternating_hold_one_at_a_time :
    let sched : List (Nat × Int) := [(0, 1750000000000), (1, 1750000000000), (0, 1750000000001),
      (1, 1750000000001), (0, 1750000000002), (1, 1750000000002), (0, 1750000000003),
      (1, 1750000000003)]
    ∀ (k k' : Nat) (st st' : Start), (twinStarts.run sched).starts[k]? = some st →
      (twinStarts.run sched).starts[k']? = some st' → st.phase.holds = true →
        st'.phase.holds = true → k = k' :=
  (starts_hold_lock_one_at_a_time 1 1750000000000 1750000120000 twinStarts
    (by simp [twinStarts, Database.LocksKeyed]) (fun _ h => by simp [twinStarts] at h)
    (by norm_num [twinStarts, LockWindow])
    (by simp [twinStarts]) _ (by decide)).1

def blankScriptTwins : Cluster :=
  { twinStarts with db := { executions := [{ pendingRow with script := "" }] } }

end LoadDispatch.Orchestrator

namespace LoadDispatch

def nodeOne : Node := ⟨1, some 1, "n1", "127.0.0.1", true, 1750000000000⟩

/-- An instance whose agents on nodes 1 and 2 accept every command. -/
def acceptingInstance : Controller :=
  { config := {},
    router := { routes := [{ node := 1, answers := [.reply ⟨true, 1, "accepted", [], 0⟩] },
                           { node := 2, answers := [.reply ⟨true, 2, "accepted", [], 0⟩] }],
                timeoutMs := 0, tailChars := 0 } }

def acceptingTwins : Orchestrator.Cluster :=
  { db := { nodes := [nodeOne], executions := [Orchestrator.pendingRow] }
    instances := [⟨acceptingInstance, .unreachable⟩]
    starts := [⟨.system, { executionId := 1 }, 0, .fresh⟩, ⟨.system, { executionId := 1 }, 0, .fresh⟩] }

/-- Overlapping starts run the execution twice: the second checks while it is pending, the first
runs its round and releases the lock, and the second then takes the free lock and dispatches the
running execution again. -/
theorem overlappingStarts_dispatch_running_again :
    let early := acceptingTwins.run [(1, 1750000000000), (0, 1750000000000), (0, 1750000000000),
      (0, 1750000000000), (0, 1750000000000)]
    let late := early.run [(1, 1750000000000), (1, 1750000000000), (1, 1750000000000)]
    (early.db.row? 1).map (·.status) = some .running ∧
      late.starts.map (fun st => (st.phase.lost, st.phase.answer?.isSome)) =
        [(false, true), (false, true)] ∧
      (late.db.row? 1).map ExecutionRow.scheduleCount = some 2 ∧
      late.instances.map (fun h => h.ctl.router.received.map fun p => (p.1, p.2.action)) =
        [[(1, .run), (1, .run)]] := by
  decide +kernel

end LoadDispatch
