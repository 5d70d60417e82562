import LoadDispatch.Proofs.Settled
import LoadDispatch.Proofs.Tables

/-!
The test-result store over a history of judged runs: each script judged so far has exactly one
result row, carrying the latest verdict and counting every run and every failed one. Runs are
grouped by script type and result source id, so an ad-hoc execution shares the row of a script whose
source id is its execution id.
-/
namespace LoadDispatch

/-- A judged run handed to the result store. -/
structure Judgement where
  exec : Execution
  verdict : Verdict
  samples : RunSamples
  cases : List CaseVerdict

namespace Judgement

/-- The script a run's result is kept under: its type and result source id. -/
def key (j : Judgement) : ScriptType × Int := (j.exec.scriptType, j.exec.resultSourceId)

def ofScript (js : List Judgement) (k : ScriptType × Int) : List Judgement := js.filter (·.key = k)

/-- The row the runs of a script leave under the id `i`, if it ran: the latest run's verdict and
samples, with every run counted and every failed one. -/
def tallyRow (js : List Judgement) (k : ScriptType × Int) (i : Int) : Option TestResult :=
  (ofScript js k).getLast?.map fun j => TestResult.ofRun j.exec j.verdict j.samples i
    (ofScript js k).length ((ofScript js k).countP (!·.verdict.passed))

theorem ofScript_snoc (js : List Judgement) (j : Judgement) (k : ScriptType × Int) :
    ofScript (js ++ [j]) k = ofScript js k ++ if j.key = k then [j] else [] := by
  by_cases hk : j.key = k <;> simp [ofScript, List.filter_append, hk]

theorem tallyRow_snoc (js : List Judgement) (j : Judgement) (k : ScriptType × Int) (i : Int) :
    tallyRow (js ++ [j]) k i = if j.key = k then
      some (TestResult.ofRun j.exec j.verdict j.samples i ((ofScript js k).length + 1)
        ((ofScript js k).countP (!·.verdict.passed) + if j.verdict.passed then 0 else 1))
    else tallyRow js k i := by
  unfold tallyRow
  rw [ofScript_snoc]
  by_cases hk : j.key = k
  · cases hp : j.verdict.passed <;> simp [hk, hp]
  · simp [hk]

end Judgement

def TestResult.key (r : TestResult) : ScriptType × Int := (r.scriptType, r.scriptSourceId)

@[simp] theorem TestResult.key_ofRun (exec : Execution) (verdict : Verdict) (samples : RunSamples)
    (id : Int) (timesRun timesFailed : Nat) :
    (TestResult.ofRun exec verdict samples id timesRun timesFailed).key =
      (exec.scriptType, exec.resultSourceId) := rfl

@[simp] theorem TestResult.id_ofRun (exec : Execution) (verdict : Verdict) (samples : RunSamples)
    (id : Int) (timesRun timesFailed : Nat) :
    (TestResult.ofRun exec verdict samples id timesRun timesFailed).id = id := rfl

namespace Database

/-- Records a judged run; gives the result as stored. -/
def record (db : Database) (j : Judgement) : TestResult × Database :=
  db.recordResult j.exec j.verdict j.samples j.cases

def recordAll (db : Database) (js : List Judgement) : Database :=
  js.foldl (fun db j => (db.record j).2) db

@[simp] theorem recordAll_nil (db : Database) : db.recordAll [] = db := rfl

theorem recordAll_snoc (db : Database) (js : List Judgement) (j : Judgement) :
    db.recordAll (js ++ [j]) = ((db.recordAll js).record j).2 := by
  simp [recordAll]

theorem sameScript_eq_key (st : ScriptType) (sid : Int) (r : TestResult) :
    (r.scriptType == st && r.scriptSourceId == sid) = decide (r.key = (st, sid)) := by
  simp [TestResult.key, beq_eq_decide]

theorem currentResult_of_rows {db : Database} {k : ScriptType × Int} {rows : List TestResult}
    (h : db.results.filter (·.key = k) = rows) (hlen : rows.length ≤ 1) :
    db.currentResult k.1 k.2 = rows.head? := by
  unfold currentResult
  rw [List.filter_congr fun r _ => sameScript_eq_key k.1 k.2 r, h]
  rcases rows with _ | ⟨x, _ | ⟨y, rest⟩⟩
  · rfl
  · rfl
  · simp at hlen

/-- The result tables after the runs `js`: under each script the row its runs leave, distinct
row ids, and every case verdict under a stored result. -/
structure Tallies (js : List Judgement) (db : Database) : Prop where
  ids_nodup : (db.results.map (·.id)).Nodup
  rows : ∀ k, ∃ i, db.results.filter (·.key = k) = (Judgement.tallyRow js k i).toList
  cases_stored : ∀ c ∈ db.caseResults, c.resultId ∈ db.results.map (·.id)

theorem Tallies.empty (db : Database) :
    Tallies [] { db with results := [], caseResults := [] } where
  ids_nodup := by simp
  rows k := ⟨0, by simp [Judgement.tallyRow, Judgement.ofScript]⟩
  cases_stored := by simp

/-- Under tallied tables a script has no row, when it never ran, or the one row its runs leave. -/
theorem Tallies.rows_cases {js : List Judgement} {db : Database} (h : Tallies js db)
    (k : ScriptType × Int) :
    (Judgement.ofScript js k = [] ∧ db.results.filter (·.key = k) = []) ∨
      ∃ i jl, (Judgement.ofScript js k).getLast? = some jl ∧
        db.results.filter (·.key = k) = [TestResult.ofRun jl.exec jl.verdict jl.samples i
          (Judgement.ofScript js k).length ((Judgement.ofScript js k).countP (!·.verdict.passed))] := by
  obtain ⟨i, hi⟩ := h.rows k
  cases hrow : (Judgement.ofScript js k).getLast? with
  | none =>
    simp only [Judgement.tallyRow, hrow, Option.map_none, Option.toList_none] at hi
    exact .inl ⟨List.getLast?_eq_none_iff.mp hrow, hi⟩
  | some jl =>
    simp only [Judgement.tallyRow, hrow, Option.map_some, Option.toList_some] at hi
    exact .inr ⟨i, jl, rfl, hi⟩

/-- The id a run is recorded under: its script's row's, or else one past every id in use. -/
def recordId (db : Database) (k : ScriptType × Int) : Int :=
  match db.currentResult k.1 k.2 with
  | some cur => cur.id
  | none => nextRowId (db.results.map (·.id))

theorem mem_of_rows {db : Database} {k : ScriptType × Int} {x : TestResult}
    (hx : db.results.filter (·.key = k) = [x]) : x ∈ db.results ∧ x.key = k := by
  have hmem : x ∈ db.results.filter (·.key = k) := by
    rw [hx]
    exact List.mem_singleton_self x
  exact ⟨(List.mem_filter.mp hmem).1, of_decide_eq_true (List.mem_filter.mp hmem).2⟩

theorem eq_of_key {db : Database} {k : ScriptType × Int} {x y : TestResult}
    (hx : db.results.filter (·.key = k) = [x]) (hy : y ∈ db.results) (hk : y.key = k) : y = x := by
  have hmem : y ∈ db.results.filter (·.key = k) := List.mem_filter.mpr ⟨hy, by simpa using hk⟩
  rw [hx] at hmem
  simpa using hmem

section Step

variable {js : List Judgement} {db : Database} (h : Tallies js db) (j : Judgement)
include h

/-- The row a run writes: its own verdict and samples, under its script's id, with the counts of
the script's runs so far and this one. -/
theorem record_fst : (db.record j).1 = TestResult.ofRun j.exec j.verdict j.samples
    (db.recordId j.key) ((Judgement.ofScript js j.key).length + 1)
    ((Judgement.ofScript js j.key).countP (!·.verdict.passed) +
      if j.verdict.passed then 0 else 1) := by
  unfold record recordResult recordId
  rcases h.rows_cases j.key with ⟨hnil, hno⟩ | ⟨i, jl, -, hx⟩
  · have hcur := currentResult_of_rows hno (by simp)
    simp only [Judgement.key] at hcur hnil ⊢
    simp [hcur, hnil]
  · have hcur := currentResult_of_rows hx (by simp)
    simp only [Judgement.key] at hcur ⊢
    simp only [hcur, List.head?_cons]
    rfl

theorem record_fst_id_of_row {x : TestResult} (hx : db.results.filter (·.key = j.key) = [x]) :
    (db.record j).1.id = x.id := by
  rw [record_fst h, TestResult.id_ofRun, recordId, currentResult_of_rows hx (by simp)]
  rfl

theorem key_of_recordId {y : TestResult} (hy : y ∈ db.results) (hid : y.id = db.recordId j.key) :
    y.key = j.key := by
  unfold recordId at hid
  rcases h.rows_cases j.key with ⟨-, hno⟩ | ⟨i, jl, -, hx⟩
  · rw [currentResult_of_rows hno (by simp)] at hid
    exact absurd hid (ne_of_lt (lt_nextRowId (List.mem_map_of_mem hy)))
  · rw [currentResult_of_rows hx (by simp)] at hid
    obtain ⟨hmem, hkey⟩ := mem_of_rows hx
    rw [List.inj_on_of_nodup_map h.ids_nodup hy hmem hid]
    exact hkey

theorem record_keeps_rows :
    db.results.filter (fun x => !((x.scriptType == j.exec.scriptType &&
      x.scriptSourceId == j.exec.resultSourceId) && x.id != (db.record j).1.id)) = db.results := by
  rw [List.filter_eq_self]
  intro y hy
  rw [sameScript_eq_key]
  by_cases hk : y.key = j.key
  · rcases h.rows_cases j.key with ⟨-, hno⟩ | ⟨i, jl, -, hx⟩
    · have hmem : y ∈ db.results.filter (·.key = j.key) := List.mem_filter.mpr ⟨hy, by simpa using hk⟩
      rw [hno] at hmem
      cases hmem
    · rw [record_fst_id_of_row h j hx, eq_of_key hx hy hk]
      simp
  · have : ¬ y.key = (j.exec.scriptType, j.exec.resultSourceId) := hk
    simp [this]

theorem record_results : (db.record j).2.results = upsert TestResult.id (db.record j).1 db.results := by
  have hrows := record_keeps_rows h j
  unfold record recordResult at hrows ⊢
  dsimp only at hrows ⊢
  rw [hrows]

theorem record_rows (k : ScriptType × Int) :
    (db.record j).2.results.filter (·.key = k) =
      if j.key = k then [(db.record j).1] else db.results.filter (·.key = k) := by
  have hkey : (db.record j).1.key = j.key := by
    rw [record_fst h]
    rfl
  rw [record_results h j, filter_upsert TestResult.id (db.record j).1 (fun y => decide (y.key = k))
    fun y hy hid => by rw [key_of_recordId h j hy (hid.trans (by rw [record_fst h]; rfl)), hkey]]
  by_cases hk : j.key = k
  · subst hk
    rcases h.rows_cases j.key with ⟨-, hno⟩ | ⟨i, jl, -, hx⟩
    · simp [hkey, hno, upsert]
    · simp [hkey, hx, upsert, record_fst_id_of_row h j hx]
  · simp [hkey, hk]

/-- One more run keeps the tables tallied. -/
theorem Tallies.record : Tallies (js ++ [j]) (db.record j).2 where
  ids_nodup := by
    rw [record_results h j]
    exact upsert_keys_nodup _ _ h.ids_nodup
  rows k := by
    rw [record_rows h j k]
    by_cases hk : j.key = k
    · subst hk
      refine ⟨db.recordId j.key, ?_⟩
      rw [Judgement.tallyRow_snoc, if_pos rfl, if_pos rfl, record_fst h]
      rfl
    · obtain ⟨i, hi⟩ := h.rows k
      exact ⟨i, by rw [if_neg hk, hi, Judgement.tallyRow_snoc, if_neg hk]⟩
  cases_stored c hc := by
    rw [record_results h j]
    unfold Database.record recordResult at hc
    dsimp only at hc
    rcases mem_foldl_upsert _ _ _ _ hc with hc | ⟨cv, -, rfl⟩
    · exact keys_subset_upsert _ _ (h.cases_stored c (List.mem_of_mem_filter hc))
    · exact key_mem_upsert TestResult.id (db.record j).1 db.results

end Step

/-- Tallied tables stay tallied through any further runs. -/
theorem Tallies.recordAll {js : List Judgement} {db : Database} (h : Tallies js db) :
    ∀ more : List Judgement, Tallies (js ++ more) (db.recordAll more) := by
  intro more
  induction more using List.reverseRecOn with
  | nil => simpa using h
  | append_singleton more j ih =>
    rw [recordAll_snoc, ← List.append_assoc]
    exact ih.record j

theorem Tallies.row_id_kept {js : List Judgement} {db : Database} (h : Tallies js db)
    {k : ScriptType × Int} {x : TestResult} (hx : db.results.filter (·.key = k) = [x]) :
    ∀ more : List Judgement, ∃ y, (db.recordAll more).results.filter (·.key = k) = [y] ∧ y.id = x.id := by
  intro more
  induction more using List.reverseRecOn with
  | nil => exact ⟨x, hx, rfl⟩
  | append_singleton more j ih =>
    obtain ⟨y, hy, hid⟩ := ih
    rw [recordAll_snoc, record_rows ((h.recordAll more)) j k]
    by_cases hk : j.key = k
    · subst hk
      exact ⟨_, if_pos rfl, (record_fst_id_of_row (h.recordAll more) j hy).trans hid⟩
    · exact ⟨y, by rw [if_neg hk, hy], hid⟩

/-- Runs recorded one after another from empty result tables leave, after each of them, exactly one
row for each script that ran, its current result, holding the latest run's verdict and counting
every run and every failed one, and no row for a script that never ran; every case verdict is kept
under a stored result. -/
theorem recorded_results_tally (db : Database) (js : List Judgement) (k : ScriptType × Int) :
    let db' := ({ db with results := [], caseResults := [] } : Database).recordAll js
    (Judgement.ofScript js k = [] →
      db'.results.filter (·.key = k) = [] ∧ db'.currentResult k.1 k.2 = none) ∧
    (∀ j, (Judgement.ofScript js k).getLast? = some j → ∃ r,
      db'.results.filter (·.key = k) = [r] ∧ db'.currentResult k.1 k.2 = some r ∧
      r = TestResult.ofRun j.exec j.verdict j.samples r.id (Judgement.ofScript js k).length
        ((Judgement.ofScript js k).countP (!·.verdict.passed)) ∧ r.timesFailed ≤ r.timesRun) ∧
    ∀ c ∈ db'.caseResults, ∃ r ∈ db'.results, r.id = c.resultId := by
  intro db'
  have h : Tallies js db' := by simpa using (Tallies.empty db).recordAll js
  refine ⟨fun hnil => ?_, fun j hj => ?_, fun c hc => ?_⟩
  · rcases h.rows_cases k with ⟨-, hno⟩ | ⟨_, _, hlast, -⟩
    · exact ⟨hno, currentResult_of_rows hno (by simp)⟩
    · simp [hnil] at hlast
  · rcases h.rows_cases k with ⟨hnil, -⟩ | ⟨i, jl, hlast, hx⟩
    · simp [hnil] at hj
    · rw [hj, Option.some.injEq] at hlast
      subst hlast
      refine ⟨_, hx, currentResult_of_rows hx (by simp), rfl, ?_⟩
      exact List.countP_le_length
  · obtain ⟨r, hr, hid⟩ := List.mem_map.mp (h.cases_stored c hc)
    exact ⟨r, hr, hid⟩

/-- Two runs recorded one after the other from empty result tables, with any runs before and between
them, are written into one result row exactly when they have the same script type and result source
id. -/
theorem results_shared_iff_same_source (db : Database) (before between : List Judgement)
    (j₁ j₂ : Judgement) :
    let db₁ := ({ db with results := [], caseResults := [] } : Database).recordAll before
    let db₂ := (db₁.record j₁).2.recordAll between
    (db₂.record j₂).1.id = (db₁.record j₁).1.id ↔
      j₁.exec.scriptType = j₂.exec.scriptType ∧ j₁.exec.resultSourceId = j₂.exec.resultSourceId := by
  intro db₁ db₂
  have h₁ : Tallies before db₁ := by simpa using (Tallies.empty db).recordAll before
  have h₂ : Tallies (before ++ [j₁] ++ between) db₂ := (h₁.record j₁).recordAll between
  have hrow₁ : (db₁.record j₁).2.results.filter (·.key = j₁.key) = [(db₁.record j₁).1] := by
    rw [record_rows h₁ j₁, if_pos rfl]
  obtain ⟨y, hy, hid⟩ := (h₁.record j₁).row_id_kept hrow₁ between
  obtain ⟨hymem, hykey⟩ := mem_of_rows hy
  have hkeys : j₁.key = j₂.key ↔
      j₁.exec.scriptType = j₂.exec.scriptType ∧ j₁.exec.resultSourceId = j₂.exec.resultSourceId :=
    Prod.ext_iff
  rw [← hkeys, ← hid]
  constructor
  · intro hsame
    have hrec : (db₂.record j₂).1.id = db₂.recordId j₂.key := by
      rw [record_fst h₂]
      rfl
    have hyk₂ : y.key = j₂.key := key_of_recordId h₂ j₂ hymem (hsame.symm.trans hrec)
    exact hykey.symm.trans hyk₂
  · intro hk
    rw [hk] at hy
    exact record_fst_id_of_row h₂ j₂ hy

end Database

def Execution.RunSameScript (e₁ e₂ : Execution) : Prop :=
  e₁.scriptType = e₂.scriptType ∧ match e₁.scriptSourceId, e₂.scriptSourceId with
    | some s, some t => s = t
    | none, none => e₁.id = e₂.id
    | _, _ => False

def finishedFunctional (id : Int) (source : Option Int) : Execution :=
  { id, tenantId := 1, scriptType := .functional, scriptSourceId := source, status := .completed,
    threads := { threadCount := 1, iterationCount := 1 }, originalThreads := none, trial := false,
    debug := false, nodeCount := 1, nodePool := none, strategy := none, script := "{}",
    indicator := none, nodeIds := [] }

def scriptTwoRun : Judgement := ⟨finishedFunctional 1 (some 2), ⟨true, none, none, none⟩, {}, []⟩

def adHocTwoRun : Judgement := ⟨finishedFunctional 2 none, ⟨false, some "boom", none, none⟩, {}, []⟩

/-- The ad-hoc run is not a run of source script 2, yet it is written into that script's row and
counted as its second run. -/
theorem adHoc_run_shares_script_row :
    ¬ scriptTwoRun.exec.RunSameScript adHocTwoRun.exec ∧
      ((({} : Database).record scriptTwoRun).2.record adHocTwoRun).1.id =
        (({} : Database).record scriptTwoRun).1.id ∧
      ((({} : Database).record scriptTwoRun).2.record adHocTwoRun).1.timesRun = 2 := by
  refine ⟨?_, by decide, by decide⟩
  rintro ⟨-, h⟩
  exact h

end LoadDispatch
