import LoadDispatch.Proofs.RetryBound

/-!
A batch delete takes its ids one at a time, repeats and other tenants' executions included, and
reports each occurrence in exactly one of its lists, each in input order. A failure or a skip leaves
the site as it was; a deleted execution leaves every live view, loses its node links and keeps its
cases and results.
-/
namespace LoadDispatch

namespace Database

def withoutExecution (db : Database) (id : Int) : Database :=
  { db with executions := db.executions.filter (·.id != id) }

/-- Every row of the execution carries a deletion mark. -/
def Marked (db : Database) (id : Int) : Prop :=
  ∀ r ∈ db.executions, r.id = id → r.deletedAt.isSome

theorem softDelete_marked (db : Database) (id now : Int) : (db.softDelete id now).Marked id := by
  intro r hr hid
  simp only [softDelete, modifyRow, List.mem_map] at hr
  obtain ⟨r₀, -, rfl⟩ := hr
  by_cases h₀ : r₀.id = id
  · simp only [h₀, beq_self_eq_true, if_true]
    split
    · rfl
    · rename_i hmarked
      exact Option.isSome_iff_ne_none.mpr (by simpa using hmarked)
  · simp [h₀] at hid

variable {db : Database} {id : Int}

theorem Marked.execution?_eq_none (h : db.Marked id) : db.execution? id = none := by
  unfold execution?
  rcases hr : db.row? id with _ | r
  · rfl
  · have hmark := h r (List.mem_of_find?_eq_some hr) (row?_id hr)
    simp [Option.isSome_iff_ne_none.mp hmark]

theorem Marked.not_mem_pendingForRetry (h : db.Marked id) (m : Nat) :
    id ∉ db.pendingForRetry m := by
  rw [mem_pendingForRetry]
  rintro ⟨r, hr, hid, -, hlive, -⟩
  simpa [hlive] using h r hr hid

theorem Marked.countRunning_eq (h : db.Marked id) (tenant exclude : Int) :
    db.countRunning tenant exclude = (db.withoutExecution id).countRunning tenant exclude := by
  unfold countRunning withoutExecution
  rw [List.filter_filter]
  congr 1
  apply List.filter_congr
  intro r hr
  by_cases hid : r.id = id
  · have hmark := h r hr hid
    simp [hid, hmark]
  · simp [hid]

end Database

namespace Orchestrator

variable {ctx : RequestContext} {id : Int} {s t : Site} {e : Execution} {f : SchedulingFailure}

def Operable (ctx : RequestContext) (db : Database) (id : Int) : Prop :=
  ∃ e, db.execution? id = some e ∧ ctx.mayOperate e.tenantId = true

def StartInFlight (s : Site) (id : Int) : Prop := (s.db.lockHolder (restartKey id) s.now).isSome

def StopsWhenRunning (ctx : RequestContext) (s : Site) (id : Int) : Prop :=
  ∀ e, s.db.execution? id = some e → e.status = .running →
    ∃ os s', (stop ctx { executionId := id }).run.run s = (.ok os, s')

/-- Why an id cannot be loaded: no live execution has it, or the caller may not operate it. -/
def LoadRefusal (ctx : RequestContext) (db : Database) (id : Int) (f : SchedulingFailure) : Prop :=
  (db.execution? id = none ∧ f = .notFound id) ∨
    ∃ e, db.execution? id = some e ∧ ctx.mayOperate e.tenantId = false ∧ f = .forbidden id

/-- What deleting an execution leaves: no live view shows it, no node is linked to it, and its cases
and test results are those from before. -/
structure Removed (id : Int) (db db' : Database) : Prop where
  hidden : db'.execution? id = none
  uncounted : ∀ tenant exclude,
    db'.countRunning tenant exclude = (db'.withoutExecution id).countRunning tenant exclude
  not_pending : ∀ maxAttempts, id ∉ db'.pendingForRetry maxAttempts
  unlinked : ∀ l ∈ db'.links, l.1 ≠ id
  cases_kept : db'.cases = db.cases
  results_kept : db'.results = db.results
  caseResults_kept : db'.caseResults = db.caseResults

/-- One id of a batch delete, from the site before it to the site after it: skipped while a start
holds its lock, deleted when the caller may operate it (after its stop round if it is running), and
otherwise failed with the reason it could not be loaded. A skip or a failure changes nothing. -/
structure DeleteStep (ctx : RequestContext) (id : Int) (s : Site) (o : Except SchedulingFailure Bool)
    (t : Site) : Prop where
  skipped_iff : o = .ok false ↔ Operable ctx s.db id ∧ StartInFlight s id
  deleted_iff : o = .ok true ↔
    Operable ctx s.db id ∧ ¬StartInFlight s id ∧ StopsWhenRunning ctx s id
  skipped : o = .ok false → t = s
  deleted : o = .ok true → Removed id s.db t.db
  failed : ∀ f, o = .error f → LoadRefusal ctx s.db id f ∧ t = s

theorem LoadRefusal.not_operable {db : Database} (h : LoadRefusal ctx db id f) :
    ¬Operable ctx db id := by
  rintro ⟨e, he, hmay⟩
  rcases h with ⟨hnone, -⟩ | ⟨e', he', hmay', -⟩
  · simp [hnone] at he
  · rw [he] at he'
    cases he'
    simp [hmay] at hmay'

theorem DeleteStep.refused (h : LoadRefusal ctx s.db id f) : DeleteStep ctx id s (.error f) s where
  skipped_iff := ⟨fun h' => (by cases h'), fun h' => absurd h'.1 h.not_operable⟩
  deleted_iff := ⟨fun h' => (by cases h'), fun h' => absurd h'.1 h.not_operable⟩
  skipped h' := by cases h'
  deleted h' := by cases h'
  failed _ h' := by
    cases h'
    exact ⟨h, rfl⟩

theorem DeleteStep.held (hop : Operable ctx s.db id) (hheld : StartInFlight s id) :
    DeleteStep ctx id s (.ok false) s where
  skipped_iff := ⟨fun _ => ⟨hop, hheld⟩, fun _ => rfl⟩
  deleted_iff := ⟨fun h => (by cases h), fun h => absurd hheld h.2.1⟩
  skipped _ := rfl
  deleted h := by cases h
  failed _ h := by cases h

theorem DeleteStep.removed (hop : Operable ctx s.db id) (hfree : ¬StartInFlight s id)
    (hstop : StopsWhenRunning ctx s id) (hrem : Removed id s.db t.db) :
    DeleteStep ctx id s (.ok true) t where
  skipped_iff := ⟨fun h => (by cases h), fun h => absurd h.2 hfree⟩
  deleted_iff := ⟨fun _ => ⟨hop, hfree, hstop⟩, fun _ => rfl⟩
  skipped h := by cases h
  deleted _ := hrem
  failed _ h := by cases h

theorem Removed.softDelete {db db₁ : Database} (id now : Int) (hc : db₁.cases = db.cases)
    (hr : db₁.results = db.results) (hcr : db₁.caseResults = db.caseResults) :
    Removed id db (db₁.softDelete id now) where
  hidden := (db₁.softDelete_marked id now).execution?_eq_none
  uncounted := (db₁.softDelete_marked id now).countRunning_eq
  not_pending := (db₁.softDelete_marked id now).not_mem_pendingForRetry
  unlinked l hl := by
    simp only [Database.softDelete, List.mem_filter, bne_iff_ne] at hl
    exact hl.2
  cases_kept := hc
  results_kept := hr
  caseResults_kept := hcr

/-! ### One id -/

theorem run_deleteOne_refused (h : LoadRefusal ctx s.db id f) :
    (deleteOne ctx id).run.run s = (.error f, s) := by
  unfold deleteOne
  rcases h with ⟨hnone, rfl⟩ | ⟨e, he, hmay, rfl⟩
  · simp only [run_bind, run_load, hnone]
  · simp only [run_bind, run_load, he, hmay, Bool.false_eq_true, if_false]

theorem run_deleteOne_held (he : s.db.execution? id = some e)
    (hmay : ctx.mayOperate e.tenantId = true) (hheld : StartInFlight s id) :
    (deleteOne ctx id).run.run s = (.ok false, s) := by
  unfold deleteOne
  simp only [StartInFlight] at hheld
  simp only [run_bind, run_load, he, hmay, if_true, run_get, hheld, run_pure]

theorem lockHolder_eq_none_of_idle (he : s.db.execution? id = some e)
    (hfree : ¬StartInFlight s id) : s.db.lockHolder (restartKey e.id) s.now = none := by
  simpa [StartInFlight, Database.execution?_id he] using hfree

theorem stopsWhenRunning_of_free (he : s.db.execution? id = some e)
    (hmay : ctx.mayOperate e.tenantId = true) (hfree : ¬StartInFlight s id) :
    StopsWhenRunning ctx s id := by
  intro e' he' _
  rw [he] at he'
  cases he'
  exact ⟨_, _, run_stop_primary ctx { executionId := id } s e rfl he hmay
    (lockHolder_eq_none_of_idle he hfree)⟩

theorem run_deleteOne_free (he : s.db.execution? id = some e)
    (hmay : ctx.mayOperate e.tenantId = true) (hfree : ¬StartInFlight s id) :
    ∃ t, (deleteOne ctx id).run.run s = (.ok true, t) ∧ Removed id s.db t.db := by
  have hlock := lockHolder_eq_none_of_idle he hfree
  have hfree' : (s.db.lockHolder (restartKey id) s.now).isSome = false := by
    simpa [StartInFlight] using hfree
  unfold deleteOne
  simp only [run_bind, run_load, he, hmay, if_true, run_get, hfree', Bool.false_eq_true, if_false]
  -- the stop round of a running execution changes links and its row, never cases or results
  by_cases hrun : e.status = .running
  · simp only [hrun, beq_self_eq_true, if_true, run_bind,
      run_stop_primary ctx { executionId := id } s e rfl he hmay hlock, run_get, run_modifyDb,
      run_pure]
    exact ⟨_, rfl, .softDelete _ _ rfl rfl rfl⟩
  · simp only [hrun, beq_iff_eq, if_false, run_bind, run_pure, run_get, run_modifyDb]
    exact ⟨_, rfl, .softDelete _ _ rfl rfl rfl⟩

/-- Every id of a batch meets the step `DeleteStep` describes, whatever the site. -/
theorem deleteOne_step (ctx : RequestContext) (id : Int) (s : Site) :
    DeleteStep ctx id s ((deleteOne ctx id).run.run s).1 ((deleteOne ctx id).run.run s).2 := by
  rcases he : s.db.execution? id with _ | e
  · have h : LoadRefusal ctx s.db id (.notFound id) := .inl ⟨he, rfl⟩
    rw [run_deleteOne_refused h]
    exact .refused h
  · cases hmay : ctx.mayOperate e.tenantId
    · have h : LoadRefusal ctx s.db id (.forbidden id) := .inr ⟨e, he, hmay, rfl⟩
      rw [run_deleteOne_refused h]
      exact .refused h
    · have hop : Operable ctx s.db id := ⟨e, he, hmay⟩
      by_cases hheld : StartInFlight s id
      · rw [run_deleteOne_held he hmay hheld]
        exact .held hop hheld
      · obtain ⟨t, hrun, hrem⟩ := run_deleteOne_free he hmay hheld
        rw [hrun]
        exact .removed hop hheld (stopsWhenRunning_of_free he hmay hheld) hrem

/-! ### The batch -/

def deleteEach (ctx : RequestContext) :
    List Int → Site → List (Int × Except SchedulingFailure Bool) × Site
  | [], s => ([], s)
  | id :: ids, s =>
    let r := (deleteOne ctx id).run.run s
    let rest := deleteEach ctx ids r.2
    ((id, r.1) :: rest.1, rest.2)

/-- A batch delete, id after id: each outcome as `DeleteStep` describes it, from the site the ids
before it left. -/
inductive DeleteRun (ctx : RequestContext) :
    Site → List (Int × Except SchedulingFailure Bool) → Site → Prop
  | nil (s : Site) : DeleteRun ctx s [] s
  | cons {s t u : Site} {id : Int} {o : Except SchedulingFailure Bool}
      {outs : List (Int × Except SchedulingFailure Bool)} :
      DeleteStep ctx id s o t → DeleteRun ctx t outs u → DeleteRun ctx s ((id, o) :: outs) u

theorem deleteEach_run (ctx : RequestContext) :
    ∀ (ids : List Int) (s : Site), DeleteRun ctx s (deleteEach ctx ids s).1 (deleteEach ctx ids s).2
  | [], s => .nil s
  | id :: ids, s => .cons (deleteOne_step ctx id s) (deleteEach_run ctx ids _)

theorem deleteEach_ids (ctx : RequestContext) :
    ∀ (ids : List Int) (s : Site), (deleteEach ctx ids s).1.map (·.1) = ids
  | [], _ => rfl
  | id :: ids, s => by simp [deleteEach, deleteEach_ids ctx ids]

end Orchestrator

namespace DeleteReport

def deletedId : Int × Except SchedulingFailure Bool → Option Int
  | (id, .ok true) => some id
  | (_, .ok false) => none
  | (_, .error _) => none

def skippedId : Int × Except SchedulingFailure Bool → Option Int
  | (_, .ok true) => none
  | (id, .ok false) => some id
  | (_, .error _) => none

def failureOf : Int × Except SchedulingFailure Bool → Option DeleteFailure
  | (_, .ok _) => none
  | (id, .error f) => some ⟨id, f.message⟩

/-- The report read off the outcome of each occurrence, each list in input order. -/
def ofOutcomes (outs : List (Int × Except SchedulingFailure Bool)) : DeleteReport :=
  ⟨outs.filterMap deletedId, outs.filterMap skippedId, outs.filterMap failureOf⟩

def append (a b : DeleteReport) : DeleteReport :=
  ⟨a.deleted ++ b.deleted, a.skipped ++ b.skipped, a.failed ++ b.failed⟩

@[simp] theorem append_ofOutcomes_nil (a : DeleteReport) : a.append (ofOutcomes []) = a := by
  simp [append, ofOutcomes]

@[simp] theorem empty_append (a : DeleteReport) : ({} : DeleteReport).append a = a := rfl

theorem append_ofOutcomes_cons (a : DeleteReport) (o : Int × Except SchedulingFailure Bool)
    (outs : List (Int × Except SchedulingFailure Bool)) :
    (a.append (ofOutcomes [o])).append (ofOutcomes outs) = a.append (ofOutcomes (o :: outs)) := by
  rcases o with ⟨id, f | _ | _⟩ <;>
    simp [append, ofOutcomes, List.filterMap_cons, deletedId, skippedId, failureOf]

/-- A report holds each occurrence of its ids in exactly one of its lists, each list in input
order. -/
structure Accounts (rep : DeleteReport) (ids : List Int) : Prop where
  count_eq : ∀ x, ids.count x =
    rep.deleted.count x + rep.skipped.count x + (rep.failed.map (·.executionId)).count x
  deleted_sublist : rep.deleted.Sublist ids
  skipped_sublist : rep.skipped.Sublist ids
  failed_sublist : (rep.failed.map (·.executionId)).Sublist ids

theorem ofOutcomes_single (id : Int) (o : Except SchedulingFailure Bool) (x : Int) :
    (ofOutcomes [(id, o)]).deleted.count x + (ofOutcomes [(id, o)]).skipped.count x +
        ((ofOutcomes [(id, o)]).failed.map (·.executionId)).count x = [id].count x ∧
      (ofOutcomes [(id, o)]).deleted.Sublist [id] ∧ (ofOutcomes [(id, o)]).skipped.Sublist [id] ∧
      ((ofOutcomes [(id, o)]).failed.map (·.executionId)).Sublist [id] := by
  rcases o with f | _ | _ <;>
    simp [ofOutcomes, List.filterMap_cons, deletedId, skippedId, failureOf, List.count_singleton]

theorem ofOutcomes_accounts :
    ∀ outs : List (Int × Except SchedulingFailure Bool), (ofOutcomes outs).Accounts (outs.map (·.1))
  | [] => ⟨fun _ => rfl, .slnil, .slnil, .slnil⟩
  | (id, o) :: outs => by
    obtain ⟨hc, hd, hs, hf⟩ := ofOutcomes_accounts outs
    obtain ⟨-, hd₁, hs₁, hf₁⟩ := ofOutcomes_single id o 0
    have hsplit := append_ofOutcomes_cons {} (id, o) outs
    simp only [empty_append] at hsplit
    rw [← hsplit, List.map_cons]
    refine ⟨fun x => ?_, hd₁.append hd, hs₁.append hs, ?_⟩
    · have hone := (ofOutcomes_single id o x).1
      have hrest := hc x
      simp only [append, List.map_append, List.count_append, List.count_cons, List.count_nil] at hone hrest ⊢
      omega
    · simpa only [append, List.map_append, List.singleton_append] using hf₁.append hf

end DeleteReport

namespace Orchestrator

theorem foldlM_deleteOne (ctx : RequestContext)
    (k : DeleteReport → Int → Except SchedulingFailure Bool → SiteM DeleteReport)
    (hk : ∀ rep id o s, (k rep id o).run s = (rep.append (DeleteReport.ofOutcomes [(id, o)]), s)) :
    ∀ (ids : List Int) (rep : DeleteReport) (s : Site),
      (ids.foldlM (fun rep id => (deleteOne ctx id).run >>= k rep id) rep).run s =
        (rep.append (DeleteReport.ofOutcomes (deleteEach ctx ids s).1), (deleteEach ctx ids s).2)
  | [], rep, s => by
    simp only [deleteEach, DeleteReport.append_ofOutcomes_nil, List.foldlM_nil, StateT.run_pure]
    rfl
  | id :: ids, rep, s => by
    have hrest := foldlM_deleteOne ctx k hk ids
      (rep.append (DeleteReport.ofOutcomes [(id, ((deleteOne ctx id).run.run s).1)]))
      ((deleteOne ctx id).run.run s).2
    rw [DeleteReport.append_ofOutcomes_cons] at hrest
    simp only [List.foldlM_cons, StateT.run_bind, hk]
    exact hrest

theorem delete_run (ctx : RequestContext) (ids : List Int) (s : Site) :
    (delete ctx ids).run s =
      (DeleteReport.ofOutcomes (deleteEach ctx ids s).1, (deleteEach ctx ids s).2) := by
  unfold delete
  rw [foldlM_deleteOne ctx _ ?_ ids {} s, DeleteReport.empty_append]
  intro rep id o s
  rcases o with f | _ | _ <;>
    simp only [DeleteReport.append, DeleteReport.ofOutcomes, List.filterMap_cons,
      DeleteReport.deletedId, DeleteReport.skippedId, DeleteReport.failureOf, List.filterMap_nil,
      List.append_nil] <;> rfl

/-- A batch delete reports each occurrence of its ids in exactly one list, each list in input order,
read off a run in which each id did what `DeleteStep` says on the site the ids before it left. -/
theorem batch_delete_accounts_for_every_id (ctx : RequestContext) (ids : List Int) (s : Site) :
    ∃ outs : List (Int × Except SchedulingFailure Bool), outs.map (·.1) = ids ∧
      ((delete ctx ids).run s).1 = DeleteReport.ofOutcomes outs ∧
      ((delete ctx ids).run s).1.Accounts ids ∧
      DeleteRun ctx s outs ((delete ctx ids).run s).2 := by
  have hids := deleteEach_ids ctx ids s
  have haccounts := DeleteReport.ofOutcomes_accounts (deleteEach ctx ids s).1
  rw [hids] at haccounts
  rw [delete_run]
  exact ⟨_, hids, rfl, haccounts, deleteEach_run ctx ids s⟩

-- a repeated id meets the row its first occurrence deleted, and an unknown id fails alike
example :
    ((delete .system [1, 1, 4242]).run
      { db := { executions := [
          { id := 1, tenantId := 1, scriptType := .performance, scriptSourceId := none,
            status := .pending, threads := { threadCount := 1, iterationCount := 1 },
            originalThreads := none, trial := false, debug := false, nodeCount := 1,
            nodePool := none, strategy := none, script := "{}", indicator := none }] }
        ctl := { config := {}, router := { timeoutMs := 0, tailChars := 0 } }
        now := 0
        siblings := .unreachable }).1 =
      { deleted := [1],
        failed := [⟨1, "execution 1 not found"⟩, ⟨4242, "execution 4242 not found"⟩] } := by
  decide +kernel

end Orchestrator

end LoadDispatch
