import LoadDispatch.Proofs.Quota
import LoadDispatch.Proofs.Serving
import LoadDispatch.Cluster.Sweep

/-!
Retries of pending executions are bounded by the attempts their rows record: a start past its checks
and the lock records one more attempt, and a sweep starts only executions tried fewer than
`maxAttempts` times. A start turned away by the quota check before the lock records nothing, so
sweeps retry it for as long as the tenant stays at its quota.
-/
namespace LoadDispatch

namespace Database

variable {db db' db₁ db₂ db₃ : Database}

/-- How many times an execution has been tried, read from its row; none for an id without one. -/
def attempts (db : Database) (id : Int) : Nat := ((db.row? id).map (·.scheduleCount)).getD 0

def RowIdsUnique (db : Database) : Prop := (db.executions.map (·.id)).Nodup

theorem attempts_of_row? {id : Int} {r : ExecutionRow} (h : db.row? id = some r) :
    db.attempts id = r.scheduleCount := by
  unfold attempts
  rw [h]
  rfl

theorem row?_of_executions (h : db'.executions = db.executions) (x : Int) :
    db'.row? x = db.row? x := by
  unfold row?
  rw [h]

theorem attempts_of_executions (h : db'.executions = db.executions) (x : Int) :
    db'.attempts x = db.attempts x := by
  unfold attempts
  rw [row?_of_executions h]

theorem row?_modifyRow_of_ne (db : Database) {id x : Int} {f : ExecutionRow → ExecutionRow}
    (hf : ∀ r, (f r).id = r.id) (hx : x ≠ id) : (db.modifyRow id f).row? x = db.row? x := by
  unfold row? modifyRow
  have hpred : ((fun r : ExecutionRow => r.id == x) ∘ fun r => if r.id == id then f r else r) =
      fun r => r.id == x := by
    funext r
    by_cases hr : r.id = id <;> simp [hr, hf]
  rw [List.find?_map, hpred]
  cases h : db.executions.find? (·.id == x) with
  | none => rfl
  | some r =>
    have hr : r.id ≠ id := (row?_id h).symm ▸ hx
    simp [hr]

theorem row?_of_mem (hu : db.RowIdsUnique) {r : ExecutionRow} (hr : r ∈ db.executions) :
    db.row? r.id = some r := by
  unfold row?
  cases h : db.executions.find? (·.id == r.id) with
  | none =>
    have hnone := List.find?_eq_none.mp h r hr
    simp at hnone
  | some r' =>
    have hid : r'.id = r.id := row?_id h
    rw [List.inj_on_of_nodup_map hu (List.mem_of_find?_eq_some h) hr hid]

/-- `db'` keeps the rows of `db` under their ids, each tried at least as often. -/
structure AttemptsKept (db db' : Database) : Prop where
  ids : db'.executions.map (·.id) = db.executions.map (·.id)
  attempts_le : ∀ x, db.attempts x ≤ db'.attempts x

namespace AttemptsKept

theorem refl (db : Database) : AttemptsKept db db := ⟨rfl, fun _ => le_rfl⟩

theorem trans (h₁ : AttemptsKept db₁ db₂) (h₂ : AttemptsKept db₂ db₃) : AttemptsKept db₁ db₃ :=
  ⟨h₂.ids.trans h₁.ids, fun x => (h₁.attempts_le x).trans (h₂.attempts_le x)⟩

theorem of_executions (h : AttemptsKept db db₁) (he : db'.executions = db₁.executions) :
    AttemptsKept db db' :=
  ⟨by rw [he]; exact h.ids, fun x => by rw [attempts_of_executions he]; exact h.attempts_le x⟩

theorem rowIdsUnique (h : AttemptsKept db db') (hu : db.RowIdsUnique) : db'.RowIdsUnique := by
  unfold RowIdsUnique
  rw [h.ids]
  exact hu

end AttemptsKept

theorem attemptsKept_modifyRow (db : Database) (id : Int) {f : ExecutionRow → ExecutionRow}
    (hf : ∀ r, (f r).id = r.id) (hc : ∀ r, r.scheduleCount ≤ (f r).scheduleCount) :
    AttemptsKept db (db.modifyRow id f) := by
  refine ⟨ids_modifyRow db id hf, fun x => ?_⟩
  unfold attempts
  by_cases hx : x = id
  · subst hx
    rw [row?_modifyRow db x f hf]
    cases db.row? x with
    | none => exact le_rfl
    | some r => exact hc r
  · rw [row?_modifyRow_of_ne db hf hx]

theorem attemptsKept_finish (db : Database) (id : Int) (st : ExecutionStatus)
    (message : Option String) (now : Int) : AttemptsKept db (db.finish id st message now) :=
  attemptsKept_modifyRow db id (fun _ => rfl) fun _ => le_rfl

theorem attemptsKept_settleStop (db : Database) (id : Int) (allStopped : Bool) (now : Int) :
    AttemptsKept db (db.settleStop id allStopped now).2 :=
  attemptsKept_modifyRow db id (fun r => by split_ifs <;> rfl)
    fun r => by split_ifs <;> exact le_rfl

theorem attemptsKept_softDelete (db : Database) (id now : Int) :
    AttemptsKept db (db.softDelete id now) :=
  (attemptsKept_modifyRow db id (fun r => by split_ifs <;> rfl)
    fun r => by split_ifs <;> exact le_rfl).of_executions rfl

theorem attemptsKept_updateThreads {id : Int} {th : ThreadConfig}
    (h : db.updateThreads id th = .ok db') : AttemptsKept db db' := by
  unfold updateThreads at h
  split at h
  · cases h
  · split at h
    · cases h
    · cases h
      exact attemptsKept_modifyRow db id (fun _ => rfl) fun _ => le_rfl

theorem create_keeps_attempts {new : NewExecution} {id : Int} (h : db.create new = .ok (id, db'))
    (hu : db.RowIdsUnique) : db'.RowIdsUnique ∧ ∀ x, db.attempts x ≤ db'.attempts x := by
  unfold create at h
  split at h
  · cases h
  · cases h
    have hfresh : nextRowId (db.executions.map (·.id)) ∉ db.executions.map (·.id) :=
      fun hmem => lt_irrefl _ (lt_nextRowId hmem)
    refine ⟨?_, fun x => ?_⟩
    · unfold RowIdsUnique
      rw [List.map_append, List.map_singleton]
      exact hu.append (List.nodup_singleton _) (List.disjoint_singleton.mpr hfresh)
    · unfold attempts row?
      rw [List.find?_append]
      cases db.executions.find? (·.id == x) with
      | none => exact Nat.zero_le _
      | some r => exact le_rfl

end Database

/-- Whether a failure turned a start away: found in flight at the lock, or over the quota. -/
def SchedulingFailure.turnsAway : SchedulingFailure → Bool
  | .inFlight _ => true
  | .quotaExceeded _ => true
  | _ => false

/-- Whether a start's answer is that of an attempt: any answer but a failure that turned it
away. -/
def attemptMade : Except SchedulingFailure (List NodeOutcome) → Bool
  | .ok _ => true
  | .error f => !f.turnsAway

namespace Orchestrator

/-- A rewrite of one execution's rows that records one more attempt and keeps its id. -/
def RecordsAttempt (g : ExecutionRow → ExecutionRow) : Prop :=
  ∀ r, (g r).id = r.id ∧ (g r).scheduleCount = r.scheduleCount + 1

theorem RecordsAttempt.attemptsKept {g : ExecutionRow → ExecutionRow} (hg : RecordsAttempt g)
    (db : Database) (id : Int) : Database.AttemptsKept db (db.modifyRow id g) :=
  Database.attemptsKept_modifyRow db id (fun r => (hg r).1) fun r => by rw [(hg r).2]; omega

theorem RecordsAttempt.attempts {g : ExecutionRow → ExecutionRow} (hg : RecordsAttempt g)
    {db db' : Database} {id : Int} (hrows : db'.executions = (db.modifyRow id g).executions)
    {r : ExecutionRow} (hrow : db.row? id = some r) :
    db'.attempts id = db.attempts id + 1 ∧ ∀ x ≠ id, db'.attempts x = db.attempts x := by
  refine ⟨?_, fun x hx => ?_⟩
  · rw [Database.attempts_of_executions hrows, Database.attempts_of_row? hrow]
    unfold Database.attempts
    rw [Database.row?_modifyRow db id g fun r => (hg r).1, hrow]
    exact (hg r).2
  · rw [Database.attempts_of_executions hrows]
    unfold Database.attempts
    rw [Database.row?_modifyRow_of_ne db (fun r => (hg r).1) hx]

/-- Whichever way a round ends, it leaves its execution's rows with one more attempt and every
other row as it was. -/
theorem RoundLeaves.rows {exec : Execution} {q : Nat} {now : Int} {db db' : Database}
    (h : RoundLeaves exec q now db db') :
    ∃ g, db'.executions = (db.modifyRow exec.id g).executions ∧ RecordsAttempt g := by
  rcases h with ⟨f, hrows, -⟩ | ⟨f, hrows, -⟩ | ⟨os, -, hrows, -⟩
  · exact ⟨_, hrows, fun _ => ⟨rfl, rfl⟩⟩
  · exact ⟨_, hrows.trans (Database.executions_modifyRow_modifyRow _ _ _ fun _ => rfl),
      fun _ => ⟨rfl, rfl⟩⟩
  · exact ⟨_, hrows.trans (Database.executions_modifyRow_modifyRow _ _ _ fun _ => rfl),
      fun _ => ⟨rfl, rfl⟩⟩

/-- A start leaves the rows as they were, or records one more attempt of its own execution and
leaves every other row. -/
theorem start_rows (ctx : RequestContext) (req : StartRequest) (s : Site) :
    ((start ctx req).run.run s).2.db.executions = s.db.executions ∨
      ∃ g, ((start ctx req).run.run s).2.db.executions =
        (s.db.modifyRow req.executionId g).executions ∧ RecordsAttempt g := by
  rcases start_effect ctx req s with ⟨hrows, -⟩ | ⟨exec, hexec, -, hleaves⟩
  · exact .inl hrows
  · obtain ⟨g, hrows, hg⟩ := hleaves.rows
    rw [Database.execution?_id hexec] at hrows
    exact .inr ⟨g, hrows, hg⟩

theorem start_keeps_attempts (ctx : RequestContext) (req : StartRequest) (s : Site) :
    Database.AttemptsKept s.db ((start ctx req).run.run s).2.db := by
  rcases start_rows ctx req s with hrows | ⟨g, hrows, hg⟩
  · exact (Database.AttemptsKept.refl _).of_executions hrows
  · exact (hg.attemptsKept s.db req.executionId).of_executions hrows

theorem stop_keeps_attempts (ctx : RequestContext) (req : StopRequest) (s : Site) :
    Database.AttemptsKept s.db ((stop ctx req).run.run s).2.db := by
  rcases stop_effect ctx req s with ⟨hrows, -⟩ | ⟨exec, hb, hexec, hmay, hfree⟩
  · exact (Database.AttemptsKept.refl _).of_executions hrows
  · -- a broadcast stop unlinks the nodes that stopped and settles the status
    rw [run_stop_primary ctx req s exec hb hexec hmay hfree]
    dsimp only
    have hremove : Database.AttemptsKept s.db (s.db.removeNodes exec.id
        (NodeOutcome.succeeded (stopRound exec (stopTargets exec req) s).1)) :=
      (Database.AttemptsKept.refl s.db).of_executions rfl
    exact hremove.trans (Database.attemptsKept_settleStop _ _ _ _)

theorem complete_keeps_attempts (ctx : RequestContext) (id : Int) (report : CompletionReport)
    (s : Site) : Database.AttemptsKept s.db ((complete ctx id report).run.run s).2.db := by
  rcases complete_effect ctx id report s with ⟨hrows, -⟩ | ⟨exec, -, -, hrows, -⟩
  · exact (Database.AttemptsKept.refl _).of_executions hrows
  · exact (Database.attemptsKept_finish _ _ _ _ _).of_executions hrows

theorem delete_keeps_attempts (ctx : RequestContext) (ids : List Int) (s : Site) :
    Database.AttemptsKept s.db ((delete ctx ids).run s).2.db :=
  delete_preserves (fun db => Database.AttemptsKept s.db db)
    (fun s' ctx _ h => h.trans (stop_keeps_attempts ctx _ s'))
    (fun db id now h => h.trans (Database.attemptsKept_softDelete db id now)) ctx ids s
    (.refl _)

section SystemStart

variable {id : Int} {s : Site} {r : ExecutionRow}

theorem precheck_system_pending (hrow : s.db.row? id = some r) (hpending : r.status = .pending)
    (hlive : r.deletedAt = none) {f : SchedulingFailure}
    (h : precheck .system { executionId := id } s = .error f) : ∃ q, f = .quotaExceeded q := by
  have hx : s.db.execution? id = some { r with nodeIds := s.db.nodeIds id } := by
    unfold Database.execution?
    rw [hrow]
    simp [hlive]
  unfold precheck at h
  rw [run_load, hx] at h
  have hmay : RequestContext.system.mayOperate r.tenantId = true := rfl
  simp only [hmay, if_true] at h
  split at h
  · rename_i hrun
    simp [hpending] at hrun
  · split at h
    · exact ⟨_, (Except.error.inj h).symm⟩
    · cases h

/-- A start the system makes of a live `PENDING` execution records one more attempt of it,
unless it is turned away, in flight or over the quota. -/
theorem systemStart_records (hrow : s.db.row? id = some r) (hpending : r.status = .pending)
    (hlive : r.deletedAt = none)
    (hmade : attemptMade ((start .system { executionId := id }).run.run s).1 = true) :
    ((start .system { executionId := id }).run.run s).2.db.attempts id = s.db.attempts id + 1 := by
  rcases run_start_cases .system { executionId := id } rfl s with
    ⟨f, hpre, hrun⟩ | ⟨exec, -, hrun⟩ | ⟨exec, locks, hpre, hrun⟩
  · rw [hrun] at hmade
    obtain ⟨q, rfl⟩ := precheck_system_pending hrow hpending hlive hpre
    simp [attemptMade, SchedulingFailure.turnsAway] at hmade
  · rw [hrun] at hmade
    simp [attemptMade, SchedulingFailure.turnsAway] at hmade
  · -- the round records the attempt on the database with the lock taken, which has the same rows
    have hid : exec.id = id := Database.execution?_id (precheck_ok hpre).1
    obtain ⟨g, hrows, hg⟩ := (primaryRound_leaves .system exec { executionId := id }
      { s with db := { s.db with locks } }).rows
    rw [hid] at hrows
    rw [hrun]
    exact (hg.attempts hrows hrow).1

end SystemStart

end Orchestrator

open Orchestrator

theorem Request.serve_keeps_attempts (req : Request) {s : Site} (hu : s.db.RowIdsUnique) :
    (req.serve s).RowIdsUnique ∧ ∀ x, s.db.attempts x ≤ (req.serve s).attempts x := by
  have hkept : ∀ {db'}, Database.AttemptsKept s.db db' →
      db'.RowIdsUnique ∧ ∀ x, s.db.attempts x ≤ db'.attempts x :=
    fun h => ⟨h.rowIdsUnique hu, h.attempts_le⟩
  cases req with
  | create new =>
    dsimp only [Request.serve]
    split
    · exact Database.create_keeps_attempts ‹_› hu
    · exact hkept (.refl _)
  | updateThreads id th =>
    dsimp only [Request.serve]
    split
    · exact hkept (Database.attemptsKept_updateThreads ‹_›)
    · exact hkept (.refl _)
  | start ctx req => exact hkept (start_keeps_attempts ctx req s)
  | stop ctx req => exact hkept (stop_keeps_attempts ctx req s)
  | complete ctx id report => exact hkept (complete_keeps_attempts ctx id report s)
  | delete ctx ids => exact hkept (delete_keeps_attempts ctx ids s)

namespace Database

variable {db : Database} {m : Nat} {id : Int}

/-- Execution `id` is due a retry: live, `PENDING` and tried fewer than `m` times. -/
def RetryDue (db : Database) (m : Nat) (id : Int) : Prop :=
  ∃ r, db.row? id = some r ∧ r.status = .pending ∧ r.deletedAt = none ∧ r.scheduleCount < m

theorem mem_pendingForRetry : id ∈ db.pendingForRetry m ↔
    ∃ r ∈ db.executions, r.id = id ∧ r.status = .pending ∧ r.deletedAt = none ∧
      r.scheduleCount < m := by
  unfold pendingForRetry sortIds
  rw [mem_sortBy]
  simp [and_comm, and_left_comm]

theorem pendingForRetry_nodup (hu : db.RowIdsUnique) (m : Nat) : (db.pendingForRetry m).Nodup :=
  (sortBy_perm _ _).nodup_iff.mpr (hu.sublist (List.filter_sublist.map _))

theorem retryDue_of_mem (hu : db.RowIdsUnique) (h : id ∈ db.pendingForRetry m) :
    db.RetryDue m id := by
  obtain ⟨r, hr, rfl, hpending, hlive, hcount⟩ := mem_pendingForRetry.mp h
  exact ⟨r, row?_of_mem hu hr, hpending, hlive, hcount⟩

end Database

theorem Orchestrator.start_row?_of_ne (ctx : RequestContext) (req : StartRequest) (s : Site)
    {x : Int} (hx : x ≠ req.executionId) :
    ((start ctx req).run.run s).2.db.row? x = s.db.row? x := by
  rcases start_rows ctx req s with hrows | ⟨g, hrows, hg⟩
  · exact Database.row?_of_executions hrows x
  · rw [Database.row?_of_executions hrows x]
    exact Database.row?_modifyRow_of_ne s.db (fun r => (hg r).1) hx

/-- The starts a sweep issues over `ids`, one after another from a site: each execution with the
answer its start got, and the site the last start leaves. -/
def issueStarts : List Int → Site →
    List (Int × Except SchedulingFailure (List NodeOutcome)) × Site
  | [], s => ([], s)
  | id :: ids, s =>
    let r := (start .system { executionId := id }).run.run s
    let rest := issueStarts ids r.2
    ((id, r.1) :: rest.1, rest.2)

theorem foldlM_issueStarts {β : Type} (g : β → Except SchedulingFailure (List NodeOutcome) → β) :
    ∀ (ids : List Int) (b : β) (s : Site),
      (ids.foldlM (fun b id => do
          let r ← (start .system { executionId := id }).run
          return g b r) b).run s =
        ((issueStarts ids s).1.foldl (fun b a => g b a.2) b, (issueStarts ids s).2)
  | [], _, _ => rfl
  | id :: ids, b, s => by
    rw [List.foldlM_cons, StateT.run_bind]
    exact foldlM_issueStarts g ids _ _

theorem sweep_run (m : Nat) (s : Site) :
    (sweep m).run s = ((issueStarts (s.db.pendingForRetry m) s).1.foldl
        (fun st a => ({ st with attempted := st.attempted + 1 } : SweepStats).count a.2) {},
      (issueStarts (s.db.pendingForRetry m) s).2) := by
  unfold sweep
  exact foldlM_issueStarts
    (fun st r => ({ st with attempted := st.attempted + 1 } : SweepStats).count r)
    (s.db.pendingForRetry m) {} s

/-- One start of a sweep: the start of `id`, issued while it is due, counts as an attempt only by
recording one, and a start of another execution leaves the row of `id`. -/
theorem systemStart_attempts_step (m : Nat) (id x : Int) (s : Site) (hu : s.db.RowIdsUnique)
    (hdue : x = id → s.db.RetryDue m id) :
    (if (x == id && attemptMade ((start .system { executionId := x }).run.run s).1) = true
      then 1 else 0) + (m - ((start .system { executionId := x }).run.run s).2.db.attempts id) ≤
      m - s.db.attempts id := by
  by_cases hx : x = id
  · subst hx
    obtain ⟨r, hrow, hpending, hlive, hcount⟩ := hdue rfl
    have ha₀ := Database.attempts_of_row? hrow
    have ha₁ := ((Request.start .system { executionId := x }).serve_keeps_attempts hu).2 x
    by_cases hmade : attemptMade ((start .system { executionId := x }).run.run s).1 = true
    · have hrec := systemStart_records hrow hpending hlive hmade
      simp only [beq_self_eq_true, hmade, Bool.and_self, if_true]
      omega
    · simp only [beq_self_eq_true, hmade, Bool.true_and, Bool.false_eq_true, if_false]
      have hsub : m - ((start .system { executionId := x }).run.run s).2.db.attempts x ≤
          m - s.db.attempts x := Nat.sub_le_sub_left ha₁ m
      omega
  · have hsame : ((start .system { executionId := x }).run.run s).2.db.attempts id =
        s.db.attempts id := by
      unfold Database.attempts
      rw [start_row?_of_ne .system { executionId := x } s (Ne.symm hx)]
    have hne : (x == id) = false := by simpa using hx
    simp only [hne, Bool.false_and, Bool.false_eq_true, if_false]
    omega

/-- Over a sweep's list of executions, the attempts made of `id` and the attempts `id` has left
below `m` afterwards add up to at most those it had before. -/
theorem issueStarts_attempts (m : Nat) (id : Int) :
    ∀ (ids : List Int) (s : Site), ids.Nodup → s.db.RowIdsUnique →
      (id ∈ ids → s.db.RetryDue m id) →
      (issueStarts ids s).2.db.RowIdsUnique ∧
        ((issueStarts ids s).1.countP fun a => a.1 == id && attemptMade a.2) +
          (m - (issueStarts ids s).2.db.attempts id) ≤ m - s.db.attempts id
  | [], s, _, hu, _ => ⟨hu, by simp [issueStarts]⟩
  | x :: ids, s, hnd, hu, hdue => by
    rw [List.nodup_cons] at hnd
    have hu₁ := ((Request.start .system { executionId := x }).serve_keeps_attempts hu).1
    have hdue₁ :
        id ∈ ids → ((start .system { executionId := x }).run.run s).2.db.RetryDue m id := by
      intro hid
      have hx : id ≠ x := fun h => hnd.1 (h ▸ hid)
      obtain ⟨r, hrow, hrest⟩ := hdue (List.mem_cons_of_mem x hid)
      exact ⟨r, (start_row?_of_ne .system { executionId := x } s hx).trans hrow, hrest⟩
    obtain ⟨hu', hrest⟩ := issueStarts_attempts m id ids _ hnd.2 hu₁ hdue₁
    have hstep := systemStart_attempts_step m id x s hu fun hx => hdue (hx ▸ List.mem_cons_self)
    refine ⟨hu', ?_⟩
    simp only [issueStarts, List.countP_cons]
    omega

/-- What a retry loop meets: a sweep by an instance, or a request one serves. -/
inductive RetryStep where
  | sweep (ctl : Controller) (now : Int) (siblings : Siblings)
  | serve (v : Visit)

/-- The starts the sweeps of a run issue, with their answers, and the database the run leaves; each
sweep starts the executions due at its outset. -/
def retryRun (maxAttempts : Nat) : Database → List RetryStep →
    List (Int × Except SchedulingFailure (List NodeOutcome)) × Database
  | db, [] => ([], db)
  | db, .sweep ctl now siblings :: rest =>
    let site : Site := ⟨db, ctl, now, siblings⟩
    let tail := retryRun maxAttempts ((sweep maxAttempts).run site).2.db rest
    ((issueStarts (db.pendingForRetry maxAttempts) site).1 ++ tail.1, tail.2)
  | db, .serve v :: rest =>
    retryRun maxAttempts (v.request.serve ⟨db, v.ctl, v.now, v.siblings⟩) rest

/-- Retries are bounded: over any run of sweeps with cap `m` and requests of every kind, from a
table keyed by execution id, the starts issued for one execution that are attempts number at most
`m` less the attempts it had at the outset. -/
theorem sweep_retries_bounded (m : Nat) (id : Int) :
    ∀ (db : Database) (steps : List RetryStep), db.RowIdsUnique →
      ((retryRun m db steps).1.countP fun a => a.1 == id && attemptMade a.2) ≤ m - db.attempts id
  | db, [], _ => by simp [retryRun]
  | db, .sweep ctl now siblings :: rest, hu => by
    obtain ⟨hu', hsweep⟩ := issueStarts_attempts m id (db.pendingForRetry m)
      ⟨db, ctl, now, siblings⟩ (Database.pendingForRetry_nodup hu m) hu
      (Database.retryDue_of_mem hu)
    have htail := sweep_retries_bounded m id _ rest hu'
    simp only [retryRun, sweep_run, List.countP_append]
    dsimp only at hsweep
    omega
  | db, .serve v :: rest, hu => by
    obtain ⟨hu', hle⟩ :=
      @Request.serve_keeps_attempts v.request ⟨db, v.ctl, v.now, v.siblings⟩ hu
    have htail := sweep_retries_bounded m id _ rest hu'
    simp only [retryRun]
    exact htail.trans (Nat.sub_le_sub_left (hle id) m)

def nodelessRetries : List RetryStep :=
  [.serve ⟨.create tenantOneExecution, acceptingInstance, 1750000000000, .unreachable⟩,
   .sweep acceptingInstance 1750000000000 .unreachable,
   .sweep acceptingInstance 1750000000000 .unreachable,
   .sweep acceptingInstance 1750000000000 .unreachable]

theorem nodelessRetries_bounded :
    ({} : Database).RowIdsUnique ∧
      ((retryRun 2 {} nodelessRetries).1.countP fun a => a.1 == 1 && attemptMade a.2) ≤
        2 - ({} : Database).attempts 1 :=
  ⟨List.nodup_nil, sweep_retries_bounded 2 1 {} nodelessRetries List.nodup_nil⟩

def quotaHeldRetries : List RetryStep :=
  let visit (r : Request) : RetryStep := .serve ⟨r, quotaOneInstance, 1750000000000, .unreachable⟩
  [visit (.create tenantOneExecution), visit (.create tenantOneExecution),
   visit (.stop .system { executionId := 1, nodeIds := [7] }),
   .sweep quotaOneInstance 1750000000000 .unreachable,
   .sweep quotaOneInstance 1750000000000 .unreachable,
   .sweep quotaOneInstance 1750000000000 .unreachable]

/-- Each start of execution 2 is turned away over the quota before the lock and records nothing, so
every sweep starts it again: three starts against a cap of one. -/
theorem quotaHeld_retried_past_cap :
    (retryRun 1 {} quotaHeldRetries).1 = List.replicate 3 (2, .error (.quotaExceeded 1)) ∧
      (retryRun 1 {} quotaHeldRetries).2.attempts 2 = 0 := by
  decide +kernel

end LoadDispatch
