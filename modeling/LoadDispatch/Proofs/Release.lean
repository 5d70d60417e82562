import LoadDispatch.Proofs.Exclusion

/-!
A broadcast start takes and releases its execution's restart lock with the execution id as token, so
a release cannot tell its own row from another start's. Within one lock lifetime the row it deletes
is the one it wrote; past it, a later start may take the lock over and lose its row to the earlier
start's release.
-/
namespace LoadDispatch.Orchestrator

/-- The database after the restart lock of execution `e` held with `e`'s id is deleted: every other
table as it was, and of the locks exactly those that are not `e`'s restart key held with `e`'s id. -/
def ReleasedFrom (e : Int) (db db' : Database) : Prop :=
  db' = { db with locks := db'.locks } ∧
    ∀ l, l ∈ db'.locks ↔ l ∈ db.locks ∧ ¬(l.key = restartKey e ∧ l.token = toString e)

theorem releaseRestart_releasedFrom (db : Database) (exec : Execution) :
    ReleasedFrom exec.id db (releaseRestart db exec) := by
  refine ⟨rfl, fun l => ?_⟩
  by_cases hk : l.key = restartKey exec.id <;> by_cases ht : l.token = toString exec.id <;>
    simp [releaseRestart, Database.release, List.mem_filter, hk, ht]

theorem advance_about {ctx : RequestContext} {req : StartRequest} {p : StartPhase} {s : Site}
    {e : Int} (hreq : req.executionId = e) (hp : p.About e) : (advance ctx req p s).1.About e := by
  cases p with
  | fresh => exact hreq ▸ advance_fresh.2.2
  | checked exec =>
    simp only [advance]
    split
    · exact hp
    · exact hp
  | holding exec => exact hp
  | ranRound exec r => trivial
  | refused f => trivial
  | turnedAway exec => exact hp
  | finished r => trivial

namespace Cluster

/-- Every start is about execution `e`: asked for it and, once past its checks, working on its
row. -/
def AllAbout (e : Int) (c : Cluster) : Prop :=
  ∀ (k : Nat) (st : Start), c.starts[k]? = some st → st.req.executionId = e ∧ st.phase.About e

theorem AllAbout.step {e : Int} {c : Cluster} (h : c.AllAbout e) (i : Nat) (now : Int) :
    (c.step i now).AllAbout e := by
  intro k st hst
  by_cases hik : i = k
  · subst hik
    unfold Cluster.step at hst
    split at hst
    · exact h i st hst
    · rename_i st₀ hst₀
      split at hst
      · exact h i st hst
      · rename_i host _
        rcases getElem?_set_eq_some hst with ⟨_, rfl⟩ | ⟨hne, _⟩
        · obtain ⟨hreq, hab⟩ := h i st₀ hst₀
          exact ⟨hreq, advance_about hreq hab⟩
        · exact absurd rfl hne
  · rw [c.step_other hik now] at hst
    exact h k st hst

theorem AllAbout.run {e : Int} {c : Cluster} (h : c.AllAbout e) :
    ∀ sched : List (Nat × Int), (c.run sched).AllAbout e
  | [] => h
  | (i, now) :: rest => AllAbout.run (h.step i now) rest

variable {c : Cluster} {k : Nat} {st : Start} {now : Int}

/-- A start that has run its round gives the lock back: it deletes the restart lock of its execution
held with the execution's id, whichever start took it, and changes nothing else. -/
theorem step_release {exec : Execution} {r : Except SchedulingFailure (List NodeOutcome)}
    (hst : c.starts[k]? = some st) (hp : st.phase = .ranRound exec r) :
    c.step k now = c ∨ ReleasedFrom exec.id c.db (c.step k now).db := by
  rcases c.step_self hst now with ⟨hc, _⟩ | ⟨host, _, hdb, _⟩
  · exact .inl hc
  · right
    rw [hdb, hp]
    exact releaseRestart_releasedFrom c.db exec

theorem step_acquire {exec : Execution} {st' : Start} (hst : c.starts[k]? = some st)
    (hp : st.phase = .checked exec) (hst' : (c.step k now).starts[k]? = some st')
    (hheld : st'.phase = .holding exec) :
    ∃ expiry, (c.step k now).db.locks.find? (·.key == restartKey exec.id) =
      some ⟨restartKey exec.id, toString exec.id, expiry⟩ := by
  rcases c.step_self hst now with ⟨hc, _⟩ | ⟨host, _, hdb, hst''⟩
  · rw [hc, hst] at hst'
    cases hst'
    rw [hp] at hheld
    cases hheld
  · rw [hst''] at hst'
    cases hst'
    rw [hdb, hp]
    rw [hp] at hheld
    simp only [advance] at hheld ⊢
    by_cases hacq : (acquireRestart ⟨c.db, host.ctl, now, host.siblings⟩ exec).1 = true
    · simp only [hacq, if_true]
      exact ⟨_, Database.tryAcquire_row hacq⟩
    · simp [hacq] at hheld

theorem run_finished {r : Except SchedulingFailure (List NodeOutcome)} (sched : List (Nat × Int)) :
    ∀ {c : Cluster} {st : Start}, c.starts[k]? = some st → st.phase = .finished r →
      ∃ st', (c.run sched).starts[k]? = some st' ∧ st'.phase = .finished r := by
  induction sched with
  | nil => exact fun hst hp => ⟨_, hst, hp⟩
  | cons p rest ih =>
    intro c st hst hp
    obtain ⟨i, t⟩ := p
    by_cases hik : i = k
    · subst hik
      rcases c.step_self hst t with ⟨hc, _⟩ | ⟨host, _, _, hst'⟩
      · exact ih (c := c.step i t) (by rw [hc]; exact hst) hp
      · exact ih hst' (by simp [hp, advance])
    · exact ih (c := c.step i t) (by rw [c.step_other hik t]; exact hst) hp

end Cluster

section Held

variable {e lo hi : Int} {c : Cluster}

/-- Starts of `e`, none past its checks, on a keyed lock table where `e`'s lock is free from `lo`
and within a lock lifetime from `lo` to `hi`: the invariant of `Exclusive` holds. -/
theorem Exclusive.of_fresh (hkeyed : c.db.LocksKeyed) (hfree : LockFree e lo c.db)
    (hwin : ∀ h ∈ c.instances, LockWindow lo hi h.ctl.config.dispatch.lockTtlSecs)
    (hstarts : ∀ st ∈ c.starts, st.req.executionId = e ∧ st.phase = .fresh) :
    Exclusive e lo hi c where
  keyed := hkeyed
  window := hwin
  about k st h := ⟨(hstarts st (List.mem_of_getElem? h)).1, by
    simp [(hstarts st (List.mem_of_getElem? h)).2, StartPhase.About]⟩
  single k _ st _ h _ hh _ := by simp [(hstarts st (List.mem_of_getElem? h)).2, StartPhase.holds] at hh
  held k st h hh := by simp [(hstarts st (List.mem_of_getElem? h)).2, StartPhase.holds] at hh
  free _ := hfree

/-- Within a lock lifetime, while start `k` holds the lock no other start's step changes the lock
table: another start is outside the lock, so its acquire is turned away. -/
theorem Exclusive.step_locks (hinv : Exclusive e lo hi c) {k i : Nat} {st : Start}
    (hst : c.starts[k]? = some st) (hholds : st.phase.holds = true) (hik : i ≠ k) {now : Int}
    (hhi : now < hi) : (c.step i now).db.locks = c.db.locks := by
  unfold Cluster.step
  split
  · rfl
  · rename_i sti hsti
    split
    · rfl
    · rename_i host _
      dsimp only
      have hout : sti.phase.holds = false := by
        cases h : sti.phase.holds
        · rfl
        · exact absurd (hinv.single i k sti st hsti hst h hholds) hik
      obtain ⟨row, hrow, _, hexp⟩ := hinv.held k st hst hholds
      obtain ⟨_, habout⟩ := hinv.about i sti hsti
      cases hp : sti.phase with
      | fresh => rw [advance_fresh.1]
      | checked exec =>
        have hid : exec.id = e := by simpa [hp, StartPhase.About] using habout
        rw [← hid] at hrow
        rw [advance_checked_held hrow (by simp only; omega)]
      | holding exec => simp [hp, StartPhase.holds] at hout
      | ranRound exec r => simp [hp, StartPhase.holds] at hout
      | refused f => rfl
      | turnedAway exec => rfl
      | finished r => rfl

theorem Exclusive.locks_kept_while_held {k : Nat} (sched : List (Nat × Int)) :
    ∀ {c : Cluster} {st : Start}, Exclusive e lo hi c → c.starts[k]? = some st →
      st.phase.holds = true → (∀ p ∈ sched, lo ≤ p.2 ∧ p.2 < hi) →
      (∃ st', (c.run sched).starts[k]? = some st' ∧ st'.phase.holds = true) →
        (c.run sched).db.locks = c.db.locks := by
  induction sched with
  | nil => exact fun _ _ _ _ _ => rfl
  | cons p rest ih =>
    intro c st hinv hst hholds htimes hend
    obtain ⟨i, now⟩ := p
    obtain ⟨hlo, hhi⟩ := htimes (i, now) List.mem_cons_self
    have hrest : ∀ p ∈ rest, lo ≤ p.2 ∧ p.2 < hi := fun p hp => htimes p (List.mem_cons_of_mem _ hp)
    obtain ⟨st₁, hst₁, hholds₁, hlocks⟩ : ∃ st₁, (c.step i now).starts[k]? = some st₁ ∧
        st₁.phase.holds = true ∧ (c.step i now).db.locks = c.db.locks := by
      by_cases hik : i = k
      · subst hik
        rcases c.step_self hst now with ⟨hc, _⟩ | ⟨host, _, hdb, hst'⟩
        · exact ⟨st, by rw [hc]; exact hst, hholds, by rw [hc]⟩
        · cases hp : st.phase with
          | holding exec =>
            refine ⟨_, hst', by simp [hp, advance, StartPhase.holds], ?_⟩
            rw [hdb, hp]
            exact advance_holding_locks exec
          | ranRound exec r =>
            exfalso
            obtain ⟨st', hfin, hph⟩ := Cluster.run_finished (r := r) rest hst' (by simp [hp, advance])
            obtain ⟨st'', hend', hh⟩ := hend
            change ((c.step i now).run rest).starts[i]? = some st'' at hend'
            rw [hfin] at hend'
            cases hend'
            simp [hph, StartPhase.holds] at hh
          | _ => simp [hp, StartPhase.holds] at hholds
      · exact ⟨st, by rw [c.step_other hik now]; exact hst, hholds, hinv.step_locks hst hholds hik hhi⟩
    change ((c.step i now).run rest).db.locks = c.db.locks
    rw [ih (hinv.step i hlo hhi) hst₁ hholds₁ hrest hend, hlocks]

end Held

/-! ### The release of a start -/

/-- The release of a broadcast start deletes the restart lock of `e` held with `e`'s id, whichever
start of `e` took it last. Within one lock lifetime of a free lock the table does not change while a
start holds the lock, so the entry it deletes is its own. -/
theorem start_release_deletes_by_execution_token (e lo hi : Int) (c : Cluster)
    (hkeyed : c.db.LocksKeyed) (hfree : LockFree e lo c.db)
    (hwin : ∀ h ∈ c.instances, LockWindow lo hi h.ctl.config.dispatch.lockTtlSecs)
    (hstarts : ∀ st ∈ c.starts, st.req.executionId = e ∧ st.phase = .fresh) :
    (∀ (sched : List (Nat × Int)) (k : Nat) (st : Start) (exec : Execution)
      (r : Except SchedulingFailure (List NodeOutcome)) (now : Int),
      (c.run sched).starts[k]? = some st → st.phase = .ranRound exec r →
        (c.run sched).step k now = c.run sched ∨
          ReleasedFrom e (c.run sched).db ((c.run sched).step k now).db) ∧
    (∀ (sched : List (Nat × Int)) (k : Nat) (st st' : Start) (exec : Execution) (now : Int),
      (c.run sched).starts[k]? = some st → st.phase = .checked exec →
        ((c.run sched).step k now).starts[k]? = some st' → st'.phase = .holding exec →
        ∃ expiry, ((c.run sched).step k now).db.locks.find? (·.key == restartKey e) =
          some ⟨restartKey e, toString e, expiry⟩) ∧
    (∀ pre mid : List (Nat × Int), (∀ p ∈ pre ++ mid, lo ≤ p.2 ∧ p.2 < hi) →
      ∀ (k : Nat) (st : Start), (c.run pre).starts[k]? = some st → st.phase.holds = true →
        (∃ st', (c.run (pre ++ mid)).starts[k]? = some st' ∧ st'.phase.holds = true) →
        (c.run (pre ++ mid)).db.locks = (c.run pre).db.locks) := by
  have habout : ∀ sched, (c.run sched).AllAbout e := Cluster.AllAbout.run
    (fun k st h => ⟨(hstarts st (List.mem_of_getElem? h)).1,
      by simp [(hstarts st (List.mem_of_getElem? h)).2, StartPhase.About]⟩)
  refine ⟨fun sched k st exec r now hst hp => ?_, fun sched k st st' exec now hst hp hst' hheld => ?_,
    fun pre mid htimes k st hst hholds hend => ?_⟩
  · have hid : exec.id = e := by simpa [hp, StartPhase.About] using (habout sched k st hst).2
    exact hid ▸ Cluster.step_release hst hp
  · have hid : exec.id = e := by simpa [hp, StartPhase.About] using (habout sched k st hst).2
    exact hid ▸ Cluster.step_acquire hst hp hst' hheld
  · -- within the window the invariant of exclusive holding holds after `pre`
    have hinv := (Exclusive.of_fresh hkeyed hfree hwin hstarts).run
      (fun p hp => htimes p (List.mem_append_left mid hp))
    rw [Cluster.run_append] at hend ⊢
    exact Exclusive.locks_kept_while_held mid hinv hst hholds
      (fun p hp => htimes p (List.mem_append_right pre hp)) hend

def firstStartRound : List (Nat × Int) :=
  [(0, 1750000000000), (0, 1750000000000), (0, 1750000000000)]

theorem twinStarts_release_by_token :
    (twinStarts.run firstStartRound).step 0 1750000000000 = twinStarts.run firstStartRound ∨
      ReleasedFrom 1 (twinStarts.run firstStartRound).db
        ((twinStarts.run firstStartRound).step 0 1750000000000).db := by
  have hround : ((twinStarts.run firstStartRound).starts[0]?.map fun st =>
      match st.phase with
      | .ranRound _ _ => true
      | _ => false) = some true := by
    decide +kernel
  rcases hst : (twinStarts.run firstStartRound).starts[0]? with _ | st
  · simp [hst] at hround
  rcases hp : st.phase with _ | _ | _ | ⟨exec, r⟩ | _ | _ | _ <;> simp [hst, hp] at hround
  exact (start_release_deletes_by_execution_token 1 1750000000000 1750000120000 twinStarts
    (by simp [twinStarts, Database.LocksKeyed]) (fun _ h => by simp [twinStarts] at h)
    (by norm_num [twinStarts, LockWindow]) (by simp [twinStarts])).1
    firstStartRound 0 st exec r 1750000000000 hst hp

/-- A start outlives its lock: two minutes after the first start's round, the second takes the
expired lock over, and the first start's release then deletes the second's entry. -/
theorem blankScriptTwins_release_deletes_later_entry :
    let c₁ := blankScriptTwins.run [(0, 1750000000000), (0, 1750000000000), (0, 1750000000000),
      (1, 1750000120000), (1, 1750000120000)]
    let c₂ := c₁.step 0 1750000120000
    c₁.starts.map (·.phase.holds) = [true, true] ∧
      c₁.db.locks.map (fun l => (l.key, l.token, l.expiresAtMs)) =
        [(restartKey 1, "1", 1750000240000)] ∧
      c₂.starts.map (·.phase.holds) = [false, true] ∧ c₂.db.locks = [] := by
  decide +kernel

end LoadDispatch.Orchestrator
