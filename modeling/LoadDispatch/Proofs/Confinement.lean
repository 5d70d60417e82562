import LoadDispatch.Proofs.ResultHistory

/-!
What the writes of the store leave to other tenants. Each write reaches one execution (`Confined`),
and a write confined to an execution of an admitted tenant keeps the other tenants' executions,
links, samples and cases (`KeepsForeign`). Recording a result is the one write that reaches the rows
of other executions: it changes only the result of the run's script.
-/
namespace LoadDispatch

def Node.registration (n : Node) : Int × Option Int × String × String × Bool :=
  (n.id, n.tenantId, n.name, n.controllerIp, n.enabled)

theorem List.filter_eq_of_imp {α : Type} {p q : α → Bool} {l l' : List α}
    (hl : ∀ a ∈ l, p a = true → q a = true) (hl' : ∀ a ∈ l', p a = true → q a = true)
    (h : l'.filter q = l.filter q) : l'.filter p = l.filter p := by
  have hsplit : ∀ m : List α, (∀ a ∈ m, p a = true → q a = true) →
      m.filter p = (m.filter q).filter p := by
    intro m hm
    rw [List.filter_filter]
    apply List.filter_congr
    intro a ha
    cases hp : p a
    · rfl
    · simp [hm a ha hp]
  rw [hsplit l' hl', hsplit l hl, h]

namespace Database

/-- Some row with this id belongs to a tenant that `own` does not admit. -/
def isForeign (own : Int → Bool) (db : Database) (id : Int) : Bool :=
  db.executions.any fun r => r.id == id && !own r.tenantId

/-- Every row with this id belongs to a tenant that `own` admits. -/
def OwnId (own : Int → Bool) (db : Database) (id : Int) : Prop :=
  ∀ r ∈ db.executions, r.id = id → own r.tenantId = true

/-- `db'` differs from `db` only in the rows, links and samples of execution `id`, and in the
locks; the rows keep their ids and owners. -/
structure Confined (id : Int) (db db' : Database) : Prop where
  owners : db'.executions.map (fun r => (r.id, r.tenantId)) =
    db.executions.map fun r => (r.id, r.tenantId)
  rows : db'.executions.filter (·.id != id) = db.executions.filter (·.id != id)
  links : db'.links.filter (·.1 != id) = db.links.filter (·.1 != id)
  summaries : db'.summaries.filter (·.1 != id) = db.summaries.filter (·.1 != id)
  usage : db'.usage.filter (·.1 != id) = db.usage.filter (·.1 != id)
  caseSamples : db'.caseSamples.filter (·.1 != id) = db.caseSamples.filter (·.1 != id)
  cases : db'.cases = db.cases
  nodes : db'.nodes = db.nodes
  results : db'.results = db.results
  caseResults : db'.caseResults = db.caseResults

/-- `db'` keeps what the tenants `own` does not admit have: their execution rows, the links,
samples and cases of their executions, and every node's registration and switch. -/
structure KeepsForeign (own : Int → Bool) (db db' : Database) : Prop where
  rows : db'.executions.filter (fun r => !own r.tenantId) =
    db.executions.filter fun r => !own r.tenantId
  links : db'.links.filter (fun l => db.isForeign own l.1) =
    db.links.filter fun l => db.isForeign own l.1
  summaries : db'.summaries.filter (fun x => db.isForeign own x.1) =
    db.summaries.filter fun x => db.isForeign own x.1
  usage : db'.usage.filter (fun x => db.isForeign own x.1) =
    db.usage.filter fun x => db.isForeign own x.1
  caseSamples : db'.caseSamples.filter (fun x => db.isForeign own x.1) =
    db.caseSamples.filter fun x => db.isForeign own x.1
  cases : db'.cases.filter (fun x => db.isForeign own x.1) =
    db.cases.filter fun x => db.isForeign own x.1
  nodes : db'.nodes.map Node.registration = db.nodes.map Node.registration

variable {own : Int → Bool} {id : Int} {db db' db₁ db₂ db₃ : Database}

theorem isForeign_eq_of_rows
    (h : db'.executions.filter (fun r => !own r.tenantId) = db.executions.filter fun r => !own r.tenantId) :
    db'.isForeign own = db.isForeign own := by
  funext x
  have hany : ∀ d : Database,
      d.isForeign own x = (d.executions.filter fun r => !own r.tenantId).any (·.id == x) := by
    intro d
    rw [List.any_filter]
    unfold isForeign
    congr 1
    funext r
    exact Bool.and_comm _ _
  rw [hany, hany, h]

theorem isForeign_false_of_ownId (hown : db.OwnId own id) : db.isForeign own id = false := by
  unfold isForeign
  rw [List.any_eq_false]
  intro r hr
  by_cases hid : r.id = id
  · simp [hid, hown r hr hid]
  · simp [hid]

theorem ownId_of_owners
    (h : db'.executions.map (fun r => (r.id, r.tenantId)) = db.executions.map fun r => (r.id, r.tenantId))
    (hown : db.OwnId own id) : db'.OwnId own id := by
  intro r' hr' hid
  have hmem : (r'.id, r'.tenantId) ∈ db.executions.map fun r => (r.id, r.tenantId) := by
    rw [← h]
    exact List.mem_map_of_mem hr'
  obtain ⟨r, hr, hpair⟩ := List.mem_map.mp hmem
  obtain ⟨hrid, hten⟩ := Prod.mk.inj hpair
  rw [← hten]
  exact hown r hr (hrid.trans hid)

theorem ids_nodup_of_owners
    (h : db'.executions.map (fun r => (r.id, r.tenantId)) = db.executions.map fun r => (r.id, r.tenantId))
    (hids : (db.executions.map (·.id)).Nodup) : (db'.executions.map (·.id)).Nodup := by
  have hmap := congrArg (List.map Prod.fst) h
  simp only [List.map_map, Function.comp_def] at hmap
  rw [hmap]
  exact hids

namespace Confined

theorem refl (id : Int) (db : Database) : Confined id db db :=
  ⟨rfl, rfl, rfl, rfl, rfl, rfl, rfl, rfl, rfl, rfl⟩

theorem trans (h₁ : Confined id db₁ db₂) (h₂ : Confined id db₂ db₃) : Confined id db₁ db₃ :=
  ⟨h₂.owners.trans h₁.owners, h₂.rows.trans h₁.rows, h₂.links.trans h₁.links,
    h₂.summaries.trans h₁.summaries, h₂.usage.trans h₁.usage, h₂.caseSamples.trans h₁.caseSamples,
    h₂.cases.trans h₁.cases, h₂.nodes.trans h₁.nodes, h₂.results.trans h₁.results,
    h₂.caseResults.trans h₁.caseResults⟩

theorem ids (h : Confined id db db') : db'.executions.map (·.id) = db.executions.map (·.id) := by
  have := congrArg (List.map Prod.fst) h.owners
  simpa only [List.map_map, Function.comp_def] using this

theorem ownId (h : Confined id db db') (hown : db.OwnId own id) : db'.OwnId own id :=
  ownId_of_owners h.owners hown

/-- A write confined to an execution of an admitted tenant keeps the other tenants'. -/
theorem keepsForeign (h : Confined id db db') (hown : db.OwnId own id) :
    KeepsForeign own db db' := by
  have hown' := h.ownId hown
  have hrow : ∀ d : Database, d.OwnId own id → ∀ r ∈ d.executions,
      (!own r.tenantId) = true → (r.id != id) = true := by
    intro d hd r hr hf
    have : r.id ≠ id := fun hid => by simp [hd r hr hid] at hf
    simpa using this
  have hkey : ∀ x, db.isForeign own x = true → (x != id) = true := by
    intro x hx
    have : x ≠ id := by
      rintro rfl
      rw [isForeign_false_of_ownId hown] at hx
      cases hx
    simpa using this
  refine ⟨List.filter_eq_of_imp (hrow db hown) (hrow db' hown') h.rows,
    List.filter_eq_of_imp (fun l _ => hkey l.1) (fun l _ => hkey l.1) h.links,
    List.filter_eq_of_imp (fun x _ => hkey x.1) (fun x _ => hkey x.1) h.summaries,
    List.filter_eq_of_imp (fun x _ => hkey x.1) (fun x _ => hkey x.1) h.usage,
    List.filter_eq_of_imp (fun x _ => hkey x.1) (fun x _ => hkey x.1) h.caseSamples,
    by rw [h.cases], by rw [h.nodes]⟩

end Confined

namespace KeepsForeign

theorem refl (own : Int → Bool) (db : Database) : KeepsForeign own db db :=
  ⟨rfl, rfl, rfl, rfl, rfl, rfl, rfl⟩

theorem trans (h₁ : KeepsForeign own db₁ db₂) (h₂ : KeepsForeign own db₂ db₃) :
    KeepsForeign own db₁ db₃ := by
  have hf := isForeign_eq_of_rows h₁.rows
  refine ⟨h₂.rows.trans h₁.rows, ?_, ?_, ?_, ?_, ?_, h₂.nodes.trans h₁.nodes⟩
  · rw [← hf]; exact h₂.links.trans (by rw [hf]; exact h₁.links)
  · rw [← hf]; exact h₂.summaries.trans (by rw [hf]; exact h₁.summaries)
  · rw [← hf]; exact h₂.usage.trans (by rw [hf]; exact h₁.usage)
  · rw [← hf]; exact h₂.caseSamples.trans (by rw [hf]; exact h₁.caseSamples)
  · rw [← hf]; exact h₂.cases.trans (by rw [hf]; exact h₁.cases)

end KeepsForeign

/-- `db'` keeps what the tenants `own` does not admit have, every result, and the id and owner of
every row: what a start, a stop or a delete leaves. -/
structure Spares (own : Int → Bool) (db db' : Database) : Prop where
  keeps : KeepsForeign own db db'
  owners : db'.executions.map (fun r => (r.id, r.tenantId)) =
    db.executions.map fun r => (r.id, r.tenantId)
  results : db'.results = db.results
  caseResults : db'.caseResults = db.caseResults

namespace Spares

theorem refl (own : Int → Bool) (db : Database) : Spares own db db :=
  ⟨.refl own db, rfl, rfl, rfl⟩

theorem trans (h₁ : Spares own db₁ db₂) (h₂ : Spares own db₂ db₃) : Spares own db₁ db₃ :=
  ⟨h₁.keeps.trans h₂.keeps, h₂.owners.trans h₁.owners, h₂.results.trans h₁.results,
    h₂.caseResults.trans h₁.caseResults⟩

theorem of_confined (h : Confined id db db') (hown : db.OwnId own id) : Spares own db db' :=
  ⟨h.keepsForeign hown, h.owners, h.results, h.caseResults⟩

end Spares

/-! ### The writes of one execution -/

/-- Changing the rows of an execution in place, their ids and owners kept, is confined to it. -/
theorem confined_modifyRow (db : Database) (id : Int) {f : ExecutionRow → ExecutionRow}
    (hf : ∀ r, (f r).id = r.id ∧ (f r).tenantId = r.tenantId) :
    Confined id db (db.modifyRow id f) := by
  have hrows : ∀ rows : List ExecutionRow,
      (rows.map fun r => if r.id == id then f r else r).filter (·.id != id) =
        rows.filter (·.id != id) := by
    intro rows
    induction rows with
    | nil => rfl
    | cons r rs ih =>
      simp only [beq_iff_eq] at ih
      by_cases h : r.id = id <;> simp [h, hf, ih]
  refine ⟨?_, hrows db.executions, rfl, rfl, rfl, rfl, rfl, rfl, rfl, rfl⟩
  simp only [modifyRow, List.map_map]
  congr 1
  funext r
  simp only [Function.comp_apply]
  split <;> simp [hf]

theorem confined_setStatus (db : Database) (id : Int) (st : ExecutionStatus) :
    Confined id db (db.setStatus id st) :=
  confined_modifyRow db id fun _ => ⟨rfl, rfl⟩

theorem confined_recordSchedule (db : Database) (id : Int) (st : ExecutionStatus)
    (outcomes : List NodeOutcome) (message : Option String) (now : Int) :
    Confined id db (db.recordSchedule id st outcomes message now) :=
  confined_modifyRow db id fun _ => ⟨rfl, rfl⟩

theorem confined_finish (db : Database) (id : Int) (st : ExecutionStatus) (message : Option String)
    (now : Int) : Confined id db (db.finish id st message now) :=
  confined_modifyRow db id fun _ => ⟨rfl, rfl⟩

theorem confined_settleStop (db : Database) (id : Int) (allStopped : Bool) (now : Int) :
    Confined id db (db.settleStop id allStopped now).2 :=
  confined_modifyRow db id fun r => by split_ifs <;> exact ⟨rfl, rfl⟩

theorem filter_ne_filter_ne {β : Type} (l : List (Int × β)) (id : Int) :
    (l.filter (·.1 != id)).filter (·.1 != id) = l.filter (·.1 != id) := by
  rw [List.filter_filter]
  simp only [Bool.and_self]

theorem confined_clearRunState (db : Database) (id : Int) : Confined id db (db.clearRunState id) :=
  ⟨rfl, rfl, filter_ne_filter_ne _ _, filter_ne_filter_ne _ _, filter_ne_filter_ne _ _,
    filter_ne_filter_ne _ _, rfl, rfl, rfl, rfl⟩

theorem confined_addNodes (db : Database) (id : Int) (nodes : List Int) :
    Confined id db (db.addNodes id nodes) := by
  have hlinks : ∀ (ns : List Int) (ls : List (Int × Int)),
      (ns.foldl (fun ls n => if ls.contains (id, n) then ls else ls ++ [(id, n)]) ls).filter
        (·.1 != id) = ls.filter (·.1 != id) := by
    intro ns
    induction ns with
    | nil => intro ls; rfl
    | cons n ns ih =>
      intro ls
      rw [List.foldl_cons, ih]
      split
      · rfl
      · simp
  exact ⟨rfl, rfl, hlinks nodes db.links, rfl, rfl, rfl, rfl, rfl, rfl, rfl⟩

theorem confined_removeNodes (db : Database) (id : Int) (nodes : List Int) :
    Confined id db (db.removeNodes id nodes) := by
  refine ⟨rfl, rfl, ?_, rfl, rfl, rfl, rfl, rfl, rfl, rfl⟩
  simp only [removeNodes, List.filter_filter]
  apply List.filter_congr
  intro l _
  by_cases h : l.1 = id <;> simp [h]

theorem confined_softDelete (db : Database) (id now : Int) :
    Confined id db (db.softDelete id now) := by
  have hrow := confined_modifyRow db id (f := fun r =>
    if r.deletedAt.isNone then { r with deletedAt := some now } else r)
    fun r => by split_ifs <;> exact ⟨rfl, rfl⟩
  exact ⟨hrow.owners, hrow.rows, filter_ne_filter_ne _ _, rfl, rfl, rfl, rfl, rfl, rfl, rfl⟩

theorem confined_saveSamples (db : Database) (id : Int) (s : RunSamples) :
    Confined id db (db.saveSamples id s) := by
  have husage : ∀ (us : List UsageSummary) (rows : List (Int × UsageSummary)),
      (us.foldl (fun rows u => (rows.filter fun e => !(e.1 == id && e.2.nodeId == u.nodeId)) ++
        [(id, u.reread)]) rows).filter (·.1 != id) = rows.filter (·.1 != id) := by
    intro us
    induction us with
    | nil => intro rows; rfl
    | cons u us ih =>
      intro rows
      rw [List.foldl_cons, ih, List.filter_append, List.filter_filter]
      simp only [List.filter_cons, bne_self_eq_false, Bool.false_eq_true, if_false,
        List.filter_nil, List.append_nil]
      apply List.filter_congr
      intro e _
      by_cases h : e.1 = id <;> simp [h]
  refine ⟨rfl, rfl, rfl, ?_, ?_, ?_, rfl, rfl, rfl, rfl⟩
  · simp only [saveSamples, List.filter_append, filter_ne_filter_ne]
    rcases s.summary with _ | x <;> simp
  · simp only [saveSamples]
    rw [husage, filter_ne_filter_ne]
  · simp only [saveSamples, List.filter_append, filter_ne_filter_ne]
    simp [List.filter_map, Function.comp_def]

theorem confined_updateThreads {t : ThreadConfig} (h : db.updateThreads id t = .ok db') :
    Confined id db db' := by
  unfold updateThreads at h
  split at h
  · cases h
  · split at h
    · cases h
    · cases h
      exact confined_modifyRow db id fun _ => ⟨rfl, rfl⟩

/-- A write of the locks alone is confined to every execution. -/
theorem confined_locks (db : Database) (id : Int) (locks : List LockRow) :
    Confined id db { db with locks } :=
  ⟨rfl, rfl, rfl, rfl, rfl, rfl, rfl, rfl, rfl, rfl⟩

theorem confined_tryAcquire (db : Database) (id : Int) (key token : String) (ttlSecs : Nat)
    (now : Int) : Confined id db (db.tryAcquire key token ttlSecs now).2 := by
  obtain ⟨locks, hlocks⟩ := tryAcquire_eq_with_locks db key token ttlSecs now
  rw [hlocks]
  exact confined_locks db id locks

theorem confined_release (db : Database) (id : Int) (key token : String) :
    Confined id db (db.release key token) :=
  confined_locks db id _

theorem ownId_of_execution? (hids : (db.executions.map (·.id)).Nodup) {e : Execution}
    (hx : db.execution? id = some e) (hmay : own e.tenantId = true) : db.OwnId own id := by
  have hrow := execution?_row hx
  have hmem : e.toExecutionRow ∈ db.executions := List.mem_of_find?_eq_some hrow
  intro r hr hrid
  have hsame : r = e.toExecutionRow :=
    List.inj_on_of_nodup_map hids hr hmem (hrid.trans (row?_id hrow).symm)
  rw [hsame]
  exact hmay

theorem isForeign_nextRowId (db : Database) (own : Int → Bool) :
    db.isForeign own (nextRowId (db.executions.map (·.id))) = false := by
  unfold isForeign
  rw [List.any_eq_false]
  intro r hr
  have hlt := lt_nextRowId (List.mem_map_of_mem (f := (·.id)) hr)
  simp [Int.ne_of_lt hlt]

/-- A new execution of an admitted tenant keeps the other tenants': its id is fresh. -/
theorem keepsForeign_create {new : NewExecution} {id : Int} (h : db.create new = .ok (id, db'))
    (hown : own new.tenantId = true) : KeepsForeign own db db' := by
  unfold create at h
  split at h
  · cases h
  · cases h
    refine ⟨?_, rfl, rfl, rfl, rfl, ?_, rfl⟩
    · simp [List.filter_append, hown]
    · -- the new cases are filed under the fresh id, which no foreign row has
      have hnew : (new.cases.map (nextRowId (db.executions.map (·.id)), ·)).filter
          (fun x => db.isForeign own x.1) = [] := by
        rw [List.filter_eq_nil_iff]
        intro c hc
        obtain ⟨c', -, rfl⟩ := List.mem_map.mp hc
        simp [isForeign_nextRowId]
      rw [List.filter_append, hnew, List.append_nil]

theorem keepsForeign_heartbeat (db : Database) (own : Int → Bool) (node now : Int) :
    KeepsForeign own db (db.heartbeat node now).2 := by
  refine ⟨rfl, rfl, rfl, rfl, rfl, rfl, ?_⟩
  simp only [heartbeat, modifyNode, List.map_map]
  congr 1
  funext n
  simp only [Function.comp_apply]
  split <;> rfl

/-- Recording a result writes the result tables alone. -/
theorem keepsForeign_recordResult (db : Database) (own : Int → Bool) (exec : Execution)
    (verdict : Verdict) (samples : RunSamples) (cases : List CaseVerdict) :
    KeepsForeign own db (db.recordResult exec verdict samples cases).2 :=
  ⟨rfl, rfl, rfl, rfl, rfl, rfl, rfl⟩

/-! ### Results are kept per script -/

/-- The results of scripts other than `key`, with their case verdicts, are as they were. -/
structure ResultsKeptOutside (key : ScriptType × Int) (db db' : Database) : Prop where
  results : db'.results.filter (fun x => decide (x.key ≠ key)) =
    db.results.filter fun x => decide (x.key ≠ key)
  caseResults : ∀ x ∈ db.results, x.key ≠ key →
    db'.caseResults.filter (·.resultId == x.id) = db.caseResults.filter (·.resultId == x.id)

theorem foldl_mem_or_init {α : Type} {f : Option α → α → Option α}
    (hf : ∀ acc r, f acc r = some r ∨ f acc r = acc) :
    ∀ (rows : List α) (acc : Option α) (c : α), rows.foldl f acc = some c → c ∈ rows ∨ acc = some c := by
  intro rows
  induction rows with
  | nil => exact fun _ _ h => .inr h
  | cons r rs ih =>
    intro acc c h
    rcases ih _ c h with hc | hc
    · exact .inl (List.mem_cons_of_mem r hc)
    · rcases hf acc r with hr | hr <;> rw [hr] at hc
      · cases hc
        exact .inl List.mem_cons_self
      · exact .inr hc

theorem currentResult_mem {st : ScriptType} {sid : Int} {cur : TestResult}
    (h : db.currentResult st sid = some cur) : cur ∈ db.results ∧ cur.key = (st, sid) := by
  unfold currentResult at h
  have hcur := foldl_mem_or_init ?step _ none cur h
  · rcases hcur with hc | hc
    · obtain ⟨hmem, hkey⟩ := List.mem_filter.mp hc
      rw [sameScript_eq_key] at hkey
      exact ⟨hmem, of_decide_eq_true hkey⟩
    · cases hc
  case step =>
    intro acc r
    rcases acc with _ | a
    · exact .inl rfl
    · dsimp only
      split
      · exact .inl rfl
      · exact .inr rfl

section Record

variable (exec : Execution) (verdict : Verdict) (samples : RunSamples) (cases : List CaseVerdict)

theorem recordResult_id_ne (hids : (db.results.map (·.id)).Nodup) {x : TestResult}
    (hx : x ∈ db.results) (hk : x.key ≠ (exec.scriptType, exec.resultSourceId)) :
    x.id ≠ (db.recordResult exec verdict samples cases).1.id := by
  unfold recordResult
  dsimp only
  split
  · rename_i cur hcur
    obtain ⟨hmem, hkey⟩ := currentResult_mem hcur
    intro hid
    have hsame : x = cur := List.inj_on_of_nodup_map hids hx hmem hid
    exact hk (hsame ▸ hkey)
  · exact Int.ne_of_lt (lt_nextRowId (List.mem_map_of_mem hx))

theorem filter_foldl_upsert_caseResult {β : Type} (f : β → TestCaseResult) (rid : Int)
    (hf : ∀ b, (f b).resultId ≠ rid) :
    ∀ (bs : List β) (rows : List TestCaseResult),
      (bs.foldl (fun rows b => upsert (fun x : TestCaseResult => (x.resultId, x.caseId)) (f b) rows)
        rows).filter (·.resultId == rid) = rows.filter (·.resultId == rid)
  | [], _ => rfl
  | b :: bs, rows => by
    rw [List.foldl_cons, filter_foldl_upsert_caseResult f rid hf bs,
      filter_upsert (fun x : TestCaseResult => (x.resultId, x.caseId)) (f b) _
        fun y _ hy => by rw [(Prod.mk.inj hy).1]]
    simp [hf b]

/-- Recording a run changes only the result of its script: the rows of every other script and
their case verdicts stay, whichever tenant's run is stored. -/
theorem recordResult_keepsOutside (hids : (db.results.map (·.id)).Nodup) :
    ResultsKeptOutside (exec.scriptType, exec.resultSourceId) db
      (db.recordResult exec verdict samples cases).2 := by
  set r := (db.recordResult exec verdict samples cases).1 with hr
  have hkey : r.key = (exec.scriptType, exec.resultSourceId) := by
    rw [hr]
    unfold recordResult
    dsimp only
    split <;> rfl
  have hsame : ∀ y ∈ db.results, y.id = r.id → y.key = (exec.scriptType, exec.resultSourceId) :=
    fun y hy hid => by_contra fun hk => recordResult_id_ne exec verdict samples cases hids hy hk hid
  have hres : (db.recordResult exec verdict samples cases).2.results = upsert TestResult.id r
      (db.results.filter fun x => !((x.scriptType == exec.scriptType &&
        x.scriptSourceId == exec.resultSourceId) && x.id != r.id)) := rfl
  have hcase : (db.recordResult exec verdict samples cases).2.caseResults = cases.foldl
      (fun rows c => upsert (fun x : TestCaseResult => (x.resultId, x.caseId))
        ⟨r.id, c.caseId, exec.id, c.passed, c.reason⟩ rows)
      (db.caseResults.filter fun c => !((db.results.filter fun x => (x.scriptType == exec.scriptType &&
        x.scriptSourceId == exec.resultSourceId) && x.id != r.id).map (·.id)).contains c.resultId) :=
    rfl
  constructor
  · rw [hres, filter_upsert TestResult.id r _ fun y hy hid => by
      rw [hsame y (List.mem_filter.mp hy).1 hid, hkey]]
    simp only [hkey, ne_eq, not_true_eq_false, decide_false, Bool.false_eq_true, if_false,
      List.filter_filter]
    apply List.filter_congr
    intro y _
    rw [sameScript_eq_key]
    by_cases hy : y.key = (exec.scriptType, exec.resultSourceId) <;> simp [hy]
  · intro x hx hk
    have hne := recordResult_id_ne exec verdict samples cases hids hx hk
    rw [hcase, filter_foldl_upsert_caseResult _ x.id (fun c => hne.symm), List.filter_filter]
    apply List.filter_congr
    intro c _
    by_cases hc : c.resultId = x.id
    · -- the id of a row of another script is no stale id of the run's script
      have hstale : ¬ x.id ∈ (db.results.filter fun y => (y.scriptType == exec.scriptType &&
          y.scriptSourceId == exec.resultSourceId) && y.id != r.id).map (·.id) := by
        intro hmem
        obtain ⟨y, hy, hyid⟩ := List.mem_map.mp hmem
        obtain ⟨hymem, hycond⟩ := List.mem_filter.mp hy
        have hxy : y = x := List.inj_on_of_nodup_map hids hymem hx hyid
        subst hxy
        rw [Bool.and_eq_true, sameScript_eq_key] at hycond
        exact hk (of_decide_eq_true hycond.1)
      simp [hc, hstale]
    · simp [hc]

end Record

end Database

end LoadDispatch
