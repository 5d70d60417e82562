import LoadDispatch.Proofs.Tables
import LoadDispatch.Store.Lock

/-!
The restart lock as a table shared by any number of callers. The takeover test of an acquire and the
visibility test of a read are complements, and a lock taken for `ttl` seconds is held until `now +
ttl * 1000` computed in 64-bit arithmetic, which wraps below the clock when the sum does not fit.
-/
namespace LoadDispatch

/-- A call on the lock table. -/
inductive LockCall where
  | acquire (key token : String) (ttlSecs : Nat)
  | holder (key : String)
  | release (key token : String)
  deriving DecidableEq, Repr

inductive LockReply where
  | acquired (ok : Bool)
  | holder (token : Option String)
  | released
  deriving DecidableEq, Repr

namespace Database

def lockCall (db : Database) (now : Int) : LockCall → LockReply × Database
  | .acquire key token ttlSecs =>
    (.acquired (db.tryAcquire key token ttlSecs now).1, (db.tryAcquire key token ttlSecs now).2)
  | .holder key => (.holder (db.lockHolder key now), db)
  | .release key token => (.released, db.release key token)

/-- Calls in order, each at its time: the replies and the table after them. -/
def lockRun (db : Database) : List (Int × LockCall) → List LockReply × Database
  | [] => ([], db)
  | (now, c) :: rest =>
    ((db.lockCall now c).1 :: ((db.lockCall now c).2.lockRun rest).1,
      ((db.lockCall now c).2.lockRun rest).2)

/-- The table has one row per key, as its primary key makes it. -/
def LocksKeyed (db : Database) : Prop := (db.locks.map (·.key)).Nodup

/-- A lock reads free exactly when an acquire at the same instant takes it. -/
theorem lockHolder_eq_none_iff (db : Database) (key token : String) (ttlSecs : Nat) (now : Int) :
    db.lockHolder key now = none ↔ (db.tryAcquire key token ttlSecs now).1 = true := by
  unfold lockHolder tryAcquire
  cases db.locks.find? (·.key == key) with
  | none => simp
  | some l =>
    by_cases h : l.expiresAtMs ≤ now
    · simp [h]
    · have h' : now < l.expiresAtMs := by omega
      simp [h, h']

theorem tryAcquire_of_unexpired {db : Database} {key : String} {row : LockRow}
    (hrow : db.locks.find? (·.key == key) = some row) {now : Int} (hnow : now < row.expiresAtMs)
    (token : String) (ttlSecs : Nat) : db.tryAcquire key token ttlSecs now = (false, db) := by
  have hgt : ¬ row.expiresAtMs ≤ now := by omega
  simp [tryAcquire, hrow, hgt]

theorem tryAcquire_of_holder {db : Database} {key token : String} {now : Int}
    (h : db.lockHolder key now = some token) (ttlSecs : Nat) :
    db.tryAcquire key token ttlSecs now = (false, db) := by
  unfold lockHolder at h
  rcases hrow : db.locks.find? (·.key == key) with _ | row
  · simp [hrow] at h
  · rw [hrow] at h
    have hnow : now < row.expiresAtMs := by
      by_contra hle
      simp [hle] at h
    exact tryAcquire_of_unexpired hrow hnow token ttlSecs

theorem tryAcquire_row {db : Database} {key token : String} {ttlSecs : Nat} {now : Int}
    (h : (db.tryAcquire key token ttlSecs now).1 = true) :
    (db.tryAcquire key token ttlSecs now).2.locks.find? (·.key == key) =
      some ⟨key, token, wrapI64 (now + wrapI64 (ttlSecs * 1000))⟩ := by
  unfold tryAcquire at h ⊢
  rcases hrow : db.locks.find? (·.key == key) with _ | row
  · simp [hrow, List.find?_append]
  · simp only [hrow] at h ⊢
    by_cases hle : row.expiresAtMs ≤ now
    · simp only [hle, if_true]
      exact find?_upsert_self LockRow.key ⟨key, token, wrapI64 (now + wrapI64 (ttlSecs * 1000))⟩
        db.locks
    · simp [hle] at h

theorem release_of_other_token {db : Database} (hdb : db.LocksKeyed) {key token : String}
    (hother : ∀ row, db.locks.find? (·.key == key) = some row → row.token ≠ token) :
    db.release key token = db := by
  unfold release
  suffices hkeep : db.locks.filter (fun l => !(l.key == key && l.token == token)) = db.locks by
    rw [hkeep]
  apply List.filter_eq_self.mpr
  intro l hl
  by_cases hk : l.key = key
  · -- a keyed table has one row of the key, and a lookup finds it
    have ht := hother l (find?_key_of_mem LockRow.key hdb hl hk)
    simp [hk, ht]
  · simp [hk]

/-! ### One call at a time -/

/-- What a call answers while `token` holds `key` unexpired: an acquire of the key fails and a read
of the key names `token`; other calls answer as they may. -/
def HeldReply (key token : String) : LockCall → LockReply → Prop
  | .acquire k _ _, r => k = key → r = .acquired false
  | .holder k, r => k = key → r = .holder (some token)
  | .release _ _, _ => True

/-- The step of a held lock: a call before the expiry, other than the holder's release, answers
as `HeldReply` says and leaves the key's row in place. -/
theorem lockCall_held {db : Database} {key : String} {row : LockRow}
    (hrow : db.locks.find? (·.key == key) = some row) {now : Int} (hnow : now < row.expiresAtMs)
    {c : LockCall} (hc : c ≠ .release key row.token) :
    HeldReply key row.token c (db.lockCall now c).1 ∧
      (db.lockCall now c).2.locks.find? (·.key == key) = some row := by
  cases c with
  | acquire k t ttl =>
    by_cases hk : k = key
    · subst hk
      simp only [lockCall, tryAcquire_of_unexpired hrow hnow]
      exact ⟨fun _ => rfl, hrow⟩
    · refine ⟨fun h => absurd h hk, ?_⟩
      simp only [lockCall, tryAcquire]
      split
      · split
        · rw [find?_upsert_of_ne LockRow.key _ hk]
          exact hrow
        · exact hrow
      · simp [List.find?_append, hrow]
  | holder k =>
    refine ⟨fun hk => ?_, hrow⟩
    subst hk
    simp [lockCall, lockHolder, hrow, hnow]
  | release k t =>
    refine ⟨trivial, ?_⟩
    simp only [lockCall, release]
    apply find?_filter_of_find? hrow
    by_cases hk : row.key = k
    · have ht : row.token ≠ t := by
        rintro rfl
        have hkey : row.key = key := by simpa using List.find?_some hrow
        exact hc (by rw [← hk, hkey])
      simp [hk, ht]
    · simp [hk]

/-- The run of a held lock: through any calls before the expiry that do not include the holder's
release, every acquire of the key fails and every read names the holder. -/
theorem lockRun_held {db : Database} {key : String} {row : LockRow}
    (hrow : db.locks.find? (·.key == key) = some row) :
    ∀ {calls : List (Int × LockCall)}, (∀ c ∈ calls, c.1 < row.expiresAtMs) →
      (∀ c ∈ calls, c.2 ≠ .release key row.token) →
      List.Forall₂ (fun c r => HeldReply key row.token c.2 r) calls (db.lockRun calls).1
  | [], _, _ => List.Forall₂.nil
  | (now, c) :: rest, htime, hrel => by
    obtain ⟨hreply, hrow'⟩ := lockCall_held hrow (htime _ (List.mem_cons_self ..))
      (hrel _ (List.mem_cons_self ..))
    exact List.Forall₂.cons hreply (lockRun_held hrow'
      (fun c hc => htime c (List.mem_cons_of_mem _ hc))
      (fun c hc => hrel c (List.mem_cons_of_mem _ hc)))

theorem lockCall_keyed {db : Database} (hdb : db.LocksKeyed) (now : Int) (c : LockCall) :
    (db.lockCall now c).2.LocksKeyed := by
  cases c with
  | acquire key token ttl =>
    simp only [lockCall, tryAcquire, LocksKeyed]
    rcases hrow : db.locks.find? (·.key == key) with _ | row
    · -- no row of the key: appending its row keeps keys distinct
      have hfresh : ∀ l ∈ db.locks, ¬l.key = key := fun l hl hlk =>
        (List.find?_eq_none.mp hrow l hl) (by simp [hlk])
      simp only [hrow]
      unfold LocksKeyed at hdb
      simp only [List.map_append, List.map_cons, List.map_nil]
      rw [List.nodup_append]
      refine ⟨hdb, List.nodup_singleton _, ?_⟩
      rintro _ ha b hb rfl
      obtain ⟨l, hl, rfl⟩ := List.mem_map.mp ha
      exact hfresh l hl (List.mem_singleton.mp hb)
    · simp only [hrow]
      split
      · exact upsert_keys_nodup LockRow.key _ hdb
      · exact hdb
  | holder key => exact hdb
  | release key token => exact List.Nodup.sublist (List.filter_sublist.map _) hdb

theorem tryAcquire_keyed {db : Database} (hdb : db.LocksKeyed) (key token : String)
    (ttlSecs : Nat) (now : Int) : (db.tryAcquire key token ttlSecs now).2.LocksKeyed :=
  lockCall_keyed hdb now (.acquire key token ttlSecs)

theorem release_keyed {db : Database} (hdb : db.LocksKeyed) (key token : String) :
    (db.release key token).LocksKeyed :=
  lockCall_keyed hdb 0 (.release key token)

theorem tryAcquire_db_of_false {db : Database} {key token : String} {ttlSecs : Nat} {now : Int}
    (h : (db.tryAcquire key token ttlSecs now).1 = false) :
    (db.tryAcquire key token ttlSecs now).2 = db := by
  unfold tryAcquire at h ⊢
  rcases hrow : db.locks.find? (·.key == key) with _ | row
  · simp [hrow] at h
  · simp only [hrow] at h ⊢
    by_cases hle : row.expiresAtMs ≤ now
    · simp [hle] at h
    · simp [hle]

theorem tryAcquire_eq_with_locks (db : Database) (key token : String) (ttlSecs : Nat) (now : Int) :
    ∃ locks, (db.tryAcquire key token ttlSecs now).2 = { db with locks } := by
  unfold tryAcquire
  split
  · split
    · exact ⟨_, rfl⟩
    · exact ⟨db.locks, rfl⟩
  · exact ⟨_, rfl⟩

theorem release_find?_eq_none {db : Database} (hdb : db.LocksKeyed) {key : String} {row : LockRow}
    (hrow : db.locks.find? (·.key == key) = some row) :
    (db.release key row.token).locks.find? (·.key == key) = none := by
  unfold release
  simp only
  rw [List.find?_filter]
  apply List.find?_eq_none.mpr
  intro l hl
  by_cases hk : l.key = key
  · -- the only row of the key is the one released
    have hlrow : l = row := by
      have h := find?_key_of_mem LockRow.key hdb hl hk
      rw [hrow] at h
      exact (Option.some.inj h).symm
    simp [hlrow]
  · simp [hk]

theorem release_tryAcquire {db : Database} (hdb : db.LocksKeyed) {key token : String}
    {ttlSecs : Nat} {now : Int} (h : (db.tryAcquire key token ttlSecs now).1 = true) :
    ((db.tryAcquire key token ttlSecs now).2.release key token).locks =
      db.locks.filter (fun l => decide (l.key ≠ key)) := by
  unfold tryAcquire at h ⊢
  generalize wrapI64 (now + wrapI64 (ttlSecs * 1000)) = expires at h ⊢
  rcases hrow : db.locks.find? (·.key == key) with _ | row
  · -- no row had the key, so the release removes the new row alone
    have hnone : ∀ l ∈ db.locks, l.key ≠ key := by
      intro l hl hk
      simpa [hk] using List.find?_eq_none.mp hrow l hl
    have hkeep : db.locks.filter (fun l => decide (l.key ≠ key)) = db.locks :=
      List.filter_eq_self.mpr fun l hl => by simp [hnone l hl]
    have hrel : db.locks.filter (fun l => !(l.key == key && l.token == token)) = db.locks :=
      List.filter_eq_self.mpr fun l hl => by simp [hnone l hl]
    simp only [hrow, release, List.filter_append, hkeep, hrel]
    simp
  · simp only [hrow] at h ⊢
    by_cases hle : row.expiresAtMs ≤ now
    · simp only [hle, if_true, release]
      have hrel : (upsert LockRow.key ⟨key, token, expires⟩ db.locks).filter
            (fun l => !(l.key == key && l.token == token)) =
          (upsert LockRow.key ⟨key, token, expires⟩ db.locks).filter
            (fun l => decide (l.key ≠ key)) := by
        refine List.filter_congr fun y hy => ?_
        by_cases hk : y.key = key
        · rw [eq_of_mem_upsert LockRow.key _ hdb hy hk]
          simp
        · simp [hk]
      rw [hrel]
      exact filter_upsert_key_ne LockRow.key ⟨key, token, expires⟩ db.locks
    · simp [hle] at h

/-- Every run keeps the table keyed. -/
theorem lockRun_keyed {db : Database} (hdb : db.LocksKeyed) :
    ∀ calls : List (Int × LockCall), (db.lockRun calls).2.LocksKeyed
  | [] => hdb
  | (now, c) :: rest => lockRun_keyed (lockCall_keyed hdb now c) rest

/-! ### Expiry in 64-bit arithmetic -/

theorem wrapI64_of_fits {i : Int} (hlo : -2 ^ 63 ≤ i) (hhi : i < 2 ^ 63) : wrapI64 i = i := by
  have h64 : Int.pow 2 64 = 2 ^ 64 := rfl
  have h63 : Int.pow 2 63 = 2 ^ 63 := rfl
  unfold wrapI64
  rw [h64, h63]
  norm_num at hlo hhi ⊢
  split <;> omega

theorem expiry_of_fits {now : Int} {ttlSecs : Nat} (hlo : -2 ^ 63 ≤ now)
    (httl : (ttlSecs * 1000 : Int) < 2 ^ 63) (hhi : now + ttlSecs * 1000 < 2 ^ 63) :
    wrapI64 (now + wrapI64 (ttlSecs * 1000)) = now + ttlSecs * 1000 := by
  have hnat : (0 : Int) ≤ ttlSecs * 1000 := by positivity
  rw [wrapI64_of_fits (by linarith) httl]
  exact wrapI64_of_fits (by linarith) hhi

/-- Mutual exclusion of a lock taken at `now`: until a lifetime later, every acquire of the key
fails and every read names the holder, unless the holder releases it, provided the clock, the
lifetime and their sum fit in 64 bits. -/
theorem acquired_excludes_until_expiry {db : Database} {key token : String} {ttlSecs : Nat}
    {now : Int} (hacq : (db.tryAcquire key token ttlSecs now).1 = true) (hlo : -2 ^ 63 ≤ now)
    (httl : (ttlSecs * 1000 : Int) < 2 ^ 63) (hhi : now + ttlSecs * 1000 < 2 ^ 63)
    {calls : List (Int × LockCall)} (htime : ∀ c ∈ calls, c.1 < now + ttlSecs * 1000)
    (hrel : ∀ c ∈ calls, c.2 ≠ .release key token) :
    List.Forall₂ (fun c r => HeldReply key token c.2 r) calls
      ((db.tryAcquire key token ttlSecs now).2.lockRun calls).1 := by
  have hrow := tryAcquire_row hacq
  rw [expiry_of_fits hlo httl hhi] at hrow
  exact lockRun_held hrow htime hrel

/-! ### The protocol -/

/-- The restart lock over any interleaving of calls: reads and acquires agree on when a lock is
free; a lock is held for its lifetime unless its holder releases it, when the values fit in 64 bits;
it is not re-entrant; a release by another token changes nothing; and the table stays keyed. -/
theorem restart_lock_protocol (db : Database) (key token : String) (ttlSecs : Nat) (now : Int) :
    (db.lockHolder key now = none ↔ (db.tryAcquire key token ttlSecs now).1 = true) ∧
    ((db.tryAcquire key token ttlSecs now).1 = true →
      -2 ^ 63 ≤ now → (ttlSecs * 1000 : Int) < 2 ^ 63 → now + ttlSecs * 1000 < 2 ^ 63 →
      ∀ calls : List (Int × LockCall), (∀ c ∈ calls, c.1 < now + ttlSecs * 1000) →
        (∀ c ∈ calls, c.2 ≠ .release key token) →
        List.Forall₂ (fun c r => HeldReply key token c.2 r) calls
          ((db.tryAcquire key token ttlSecs now).2.lockRun calls).1) ∧
    (db.lockHolder key now = some token → db.tryAcquire key token ttlSecs now = (false, db)) ∧
    (db.LocksKeyed → (∀ row, db.locks.find? (·.key == key) = some row → row.token ≠ token) →
      db.release key token = db) ∧
    (∀ calls, db.LocksKeyed → (db.lockRun calls).2.LocksKeyed) :=
  ⟨lockHolder_eq_none_iff db key token ttlSecs now,
    fun hacq hlo httl hhi _ htime hrel => acquired_excludes_until_expiry hacq hlo httl hhi htime hrel,
    fun h => tryAcquire_of_holder h ttlSecs,
    fun hdb hother => release_of_other_token hdb hother,
    fun calls hdb => lockRun_keyed hdb calls⟩

theorem restart_lock_held_for_a_minute :
    List.Forall₂ (fun (c : Int × LockCall) r => HeldReply "k" "a" c.2 r)
      [(1750000000000, .holder "k"), (1750000000000, .acquire "k" "b" 60)]
      ((({} : Database).tryAcquire "k" "a" 60 1750000000000).2.lockRun
        [(1750000000000, .holder "k"), (1750000000000, .acquire "k" "b" 60)]).1 :=
  (restart_lock_protocol {} "k" "a" 60 1750000000000).2.1 (by decide) (by norm_num) (by norm_num)
    (by norm_num) _ (by decide) (by decide)

/-- A lifetime whose milliseconds fit in 64 bits but whose expiry does not wraps below the clock, so
the lock reads free at once and a second token takes it. -/
theorem restart_lock_expiry_overflows :
    (({} : Database).lockRun [(1750000000000, .acquire "k" "a" 9223372036854775),
      (1750000000000, .holder "k"), (1750000000000, .acquire "k" "b" 60)]).1 =
      [.acquired true, .holder none, .acquired true] := by
  decide

end Database

end LoadDispatch
