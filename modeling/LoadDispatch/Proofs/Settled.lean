import LoadDispatch.Proofs.Serving

/-!
A finished execution runs nowhere. The store stays `Settled` (distinct ids, links only to stored
executions, and a linked live execution is `RUNNING`) under every request whose broadcast stops name
no nodes; a stop that names nodes is settled over those alone and can leave a `STOPPED` execution
linked.
-/
namespace LoadDispatch

namespace Database

theorem execution?_some {db : Database} {id : Int} {e : Execution} (h : db.execution? id = some e) :
    e.toExecutionRow ∈ db.executions ∧ e.id = id ∧ e.deletedAt = none ∧
      e.nodeIds = db.nodeIds id := by
  unfold execution? at h
  split at h
  · rename_i r hr
    split at h
    · cases h
      rename_i hlive
      exact ⟨List.mem_of_find?_eq_some hr, row?_id hr, Option.isNone_iff_eq_none.mp hlive, rfl⟩
    · cases h
  · cases h

theorem mem_nodeIds (db : Database) (id n : Int) : n ∈ db.nodeIds id ↔ (id, n) ∈ db.links := by
  unfold nodeIds sortIds
  rw [mem_sortBy]
  simp

theorem nodeIds_nodup {db : Database} (h : db.links.Nodup) (id : Int) : (db.nodeIds id).Nodup := by
  unfold nodeIds sortIds
  rw [(sortBy_perm _ _).nodup_iff]
  refine (h.filter _).map_on fun a ha b hb hab => ?_
  rw [List.mem_filter, beq_iff_eq] at ha hb
  exact Prod.ext (ha.2.trans hb.2.symm) hab

theorem mem_addLinks (id : Int) (l : Int × Int) : ∀ (nodes : List Int) (links : List (Int × Int)),
    l ∈ nodes.foldl (fun ls n => if ls.contains (id, n) then ls else ls ++ [(id, n)]) links ↔
      l ∈ links ∨ (l.1 = id ∧ l.2 ∈ nodes)
  | [], links => by simp
  | n :: rest, links => by
    rw [List.foldl_cons, mem_addLinks id l rest]
    have hstep : l ∈ (if links.contains (id, n) then links else links ++ [(id, n)]) ↔
        l ∈ links ∨ l = (id, n) := by
      split
      · rename_i hc
        have hmem : (id, n) ∈ links := by simpa using hc
        constructor
        · exact .inl
        · rintro (h | rfl)
          · exact h
          · exact hmem
      · simp
    rw [hstep]
    obtain ⟨a, b⟩ := l
    simp only [Prod.mk.injEq, List.mem_cons]
    tauto

theorem addLinks_nodup (id : Int) : ∀ (nodes : List Int) {links : List (Int × Int)}, links.Nodup →
    (nodes.foldl (fun ls n => if ls.contains (id, n) then ls else ls ++ [(id, n)]) links).Nodup
  | [], _, h => h
  | n :: rest, links, h => by
    rw [List.foldl_cons]
    apply addLinks_nodup id rest
    split
    · exact h
    · rename_i hc
      have hfresh : (id, n) ∉ links := by simpa using hc
      exact h.append (List.nodup_singleton _) (List.disjoint_singleton.mpr hfresh)

theorem mem_modifyRow {db : Database} {x : Int} {f : ExecutionRow → ExecutionRow}
    {r' : ExecutionRow} :
    r' ∈ (db.modifyRow x f).executions ↔ ∃ r ∈ db.executions, (if r.id == x then f r else r) = r' := by
  simp [modifyRow]

theorem ids_modifyRow (db : Database) (x : Int) {f : ExecutionRow → ExecutionRow}
    (hf : ∀ r, (f r).id = r.id) :
    (db.modifyRow x f).executions.map (·.id) = db.executions.map (·.id) := by
  simp only [modifyRow, List.map_map]
  refine List.map_congr_left fun r _ => ?_
  by_cases h : r.id = x <;> simp [h, hf]

theorem mem_links_addNodes (db : Database) (id : Int) (nodes : List Int) (l : Int × Int) :
    l ∈ (db.addNodes id nodes).links ↔ l ∈ db.links ∨ (l.1 = id ∧ l.2 ∈ nodes) :=
  mem_addLinks id l nodes db.links

@[simp] theorem links_clearRunState (db : Database) (id : Int) :
    (db.clearRunState id).links = db.links.filter (·.1 != id) := rfl

theorem le_foldl_max : ∀ (ids : List Int) (a : Int), a ≤ ids.foldl max a ∧ ∀ x ∈ ids, x ≤ ids.foldl max a
  | [], a => by simp
  | y :: ids, a => by
    obtain ⟨hstart, hall⟩ := le_foldl_max ids (max a y)
    rw [List.foldl_cons]
    refine ⟨le_trans (le_max_left a y) hstart, ?_⟩
    intro x hx
    rcases List.mem_cons.mp hx with rfl | hx
    · exact le_trans (le_max_right a x) hstart
    · exact hall x hx

theorem lt_nextRowId {ids : List Int} {x : Int} (hx : x ∈ ids) : x < nextRowId ids := by
  unfold nextRowId
  have := (le_foldl_max ids 0).2 x hx
  omega

theorem executions_modifyRow_modifyRow (db : Database) (id : Int) {f : ExecutionRow → ExecutionRow}
    (g : ExecutionRow → ExecutionRow) (hf : ∀ r, (f r).id = r.id) :
    ((db.modifyRow id f).modifyRow id g).executions = (db.modifyRow id (g ∘ f)).executions := by
  simp only [modifyRow, List.map_map]
  refine List.map_congr_left fun r _ => ?_
  by_cases h : r.id = id <;> simp [h, hf]

/-- The executions and their links as the store keeps them: distinct execution ids, no link
twice, every link to a stored execution, and a live execution linked to a node is running. -/
structure Settled (db : Database) : Prop where
  ids_nodup : (db.executions.map (·.id)).Nodup
  links_nodup : db.links.Nodup
  linked_stored : ∀ l ∈ db.links, l.1 ∈ db.executions.map (·.id)
  linked_running : ∀ r ∈ db.executions, r.deletedAt = none → ∀ n, (r.id, n) ∈ db.links →
    r.status = .running

/-- A store stays settled through a change of the rows and the links of one execution `x`, when
no other execution gains a link and `x` is linked only while stored and running. -/
theorem Settled.edit {db db' : Database} {x : Int} {f : ExecutionRow → ExecutionRow}
    (h : db.Settled) (hrows : db'.executions = (db.modifyRow x f).executions)
    (hf : ∀ r, (f r).id = r.id) (hnd : db'.links.Nodup)
    (hother : ∀ l ∈ db'.links, l.1 ≠ x → l ∈ db.links)
    (hx : ∀ n, (x, n) ∈ db'.links → x ∈ db.executions.map (·.id) ∧
      ∀ r ∈ db.executions, r.id = x → (f r).deletedAt = none → (f r).status = .running) :
    db'.Settled where
  ids_nodup := by
    rw [hrows, ids_modifyRow db x hf]
    exact h.ids_nodup
  links_nodup := hnd
  linked_stored := by
    rintro ⟨i, n⟩ hl
    rw [hrows, ids_modifyRow db x hf]
    by_cases hix : i = x
    · subst hix
      exact (hx n hl).1
    · exact h.linked_stored _ (hother _ hl hix)
  linked_running := by
    intro r' hr' hlive n hn
    rw [hrows, mem_modifyRow] at hr'
    obtain ⟨r, hr, rfl⟩ := hr'
    by_cases hrx : r.id = x
    · simp only [hrx, beq_self_eq_true, if_true] at hlive hn ⊢
      rw [hf, hrx] at hn
      exact (hx n hn).2 r hr hrx hlive
    · have hne : (r.id == x) = false := by simpa using hrx
      simp only [hne, Bool.false_eq_true, if_false] at hlive hn ⊢
      exact h.linked_running r hr hlive n (hother _ hn hrx)


theorem Settled.of_same {db db' : Database} (h : db.Settled) (hrows : db'.executions = db.executions)
    (hlinks : db'.links = db.links) : db'.Settled where
  ids_nodup := hrows ▸ h.ids_nodup
  links_nodup := hlinks ▸ h.links_nodup
  linked_stored := by
    rw [hrows, hlinks]
    exact h.linked_stored
  linked_running := by
    rw [hrows, hlinks]
    exact h.linked_running

theorem Settled.edit_unlinking {db db' : Database} {x : Int} {f : ExecutionRow → ExecutionRow}
    (h : db.Settled) (hrows : db'.executions = (db.modifyRow x f).executions)
    (hf : ∀ r, (f r).id = r.id) (hsub : db'.links.Sublist db.links)
    (hx : ∀ n, (x, n) ∉ db'.links) : db'.Settled :=
  h.edit hrows hf (h.links_nodup.sublist hsub) (fun _ hl _ => hsub.subset hl)
    fun n hn => absurd hn (hx n)

/-- A live execution that is not running is linked to no node. -/
theorem Settled.unlinked {db : Database} (h : db.Settled) {id : Int} {e : Execution}
    (he : db.execution? id = some e) (hs : e.status ≠ .running) (n : Int) : (e.id, n) ∉ db.links := by
  obtain ⟨hmem, -, hlive, -⟩ := execution?_some he
  intro hl
  exact hs (h.linked_running _ hmem hlive n hl)

theorem Settled.empty {db : Database} (hrows : db.executions = []) (hlinks : db.links = []) :
    db.Settled where
  ids_nodup := by simp [hrows]
  links_nodup := by simp [hlinks]
  linked_stored := by simp [hlinks]
  linked_running := by simp [hrows]

theorem Settled.create {db db' : Database} {new : NewExecution} {id : Int} (h : db.Settled)
    (hc : db.create new = .ok (id, db')) : db'.Settled := by
  unfold Database.create at hc
  split at hc
  · cases hc
  · cases hc
    have hfresh : nextRowId (db.executions.map (·.id)) ∉ db.executions.map (·.id) :=
      fun hmem => lt_irrefl _ (lt_nextRowId hmem)
    constructor
    · rw [List.map_append, List.map_singleton]
      exact h.ids_nodup.append (List.nodup_singleton _) (List.disjoint_singleton.mpr hfresh)
    · exact h.links_nodup
    · intro l hl
      rw [List.map_append, List.mem_append]
      exact .inl (h.linked_stored l hl)
    · intro r hr hlive n hn
      rcases List.mem_append.mp hr with hr | hr
      · exact h.linked_running r hr hlive n hn
      · rw [List.mem_singleton] at hr
        subst hr
        exact absurd (h.linked_stored _ hn) hfresh

theorem Settled.updateThreads {db db' : Database} {id : Int} {t : ThreadConfig} (h : db.Settled)
    (hu : db.updateThreads id t = .ok db') : db'.Settled := by
  unfold Database.updateThreads at hu
  split at hu
  · cases hu
  · split at hu
    · cases hu
    · cases hu
      refine h.edit rfl (fun _ => rfl) h.links_nodup (fun l hl _ => hl) fun n hn => ?_
      exact ⟨h.linked_stored _ hn, fun r hr hrid hlive => h.linked_running r hr hlive n (hrid ▸ hn)⟩

theorem Settled.softDelete {db : Database} (h : db.Settled) (id now : Int) :
    (db.softDelete id now).Settled :=
  h.edit_unlinking rfl (fun r => by split <;> rfl) List.filter_sublist fun n hn => by
    unfold Database.softDelete at hn
    simp [modifyRow] at hn

/-- No live execution that has finished is linked to a node. -/
def FinishedUnlinked (db : Database) : Prop :=
  ∀ id e, db.execution? id = some e → e.status.isTerminal = true → e.nodeIds = []

theorem Settled.finishedUnlinked {db : Database} (h : db.Settled) : db.FinishedUnlinked := by
  intro id e he hdone
  obtain ⟨-, hid, -, hnodes⟩ := execution?_some he
  have hrun : e.status ≠ .running := fun hs => by
    rw [hs] at hdone
    cases hdone
  rw [hnodes, List.eq_nil_iff_forall_not_mem]
  intro n hn
  rw [mem_nodeIds, ← hid] at hn
  exact h.unlinked he hrun n hn

end Database

namespace Orchestrator

open Database

theorem judgeDispatch_running {prior : ExecutionStatus} {os : List NodeOutcome} {n : Int}
    (h : n ∈ NodeOutcome.succeeded os) : (judgeDispatch prior os).1 = .running := by
  obtain ⟨o, ho, -, hs⟩ := (NodeOutcome.mem_succeeded os n).mp h
  unfold judgeDispatch
  rw [if_pos (List.any_eq_true.mpr ⟨o, ho, hs⟩)]

/-- A start keeps the store settled: a round that fails leaves the execution unlinked, and one
that links nodes leaves it `RUNNING`. -/
theorem start_settled (ctx : RequestContext) (req : StartRequest) {s : Site} (h : s.db.Settled) :
    ((start ctx req).run.run s).2.db.Settled := by
  rcases start_effect ctx req s with ⟨hrows, hlinks⟩ | ⟨exec, hexec, hrun, hleaves⟩
  · exact h.of_same hrows hlinks
  have hfree := h.unlinked hexec hrun
  have hstored : exec.id ∈ s.db.executions.map (·.id) :=
    List.mem_map_of_mem (execution?_some hexec).1
  rcases hleaves with ⟨f, hrows, hlinks⟩ | ⟨f, hrows, hlinks⟩ | ⟨os, -, hrows, hlinks⟩
  · -- recorded before the round cleared anything: the execution had no links and gains none
    rw [← hlinks] at hfree
    exact h.edit_unlinking hrows (fun _ => rfl) (hlinks ▸ List.Sublist.refl _) hfree
  · refine h.edit_unlinking (hrows.trans (executions_modifyRow_modifyRow _ _ _ fun _ => rfl))
      (fun _ => rfl) (hlinks ▸ List.filter_sublist) fun n hn => ?_
    rw [hlinks, links_clearRunState] at hn
    simp at hn
  · refine h.edit (hrows.trans (executions_modifyRow_modifyRow _ _ _ fun _ => rfl)) (fun _ => rfl)
      ?_ (fun l hl hne => ?_) fun n hn => ⟨hstored, fun r _ _ _ => ?_⟩
    · rw [hlinks]
      exact addLinks_nodup _ _ (h.links_nodup.filter _)
    · rw [hlinks, mem_links_addNodes, links_clearRunState] at hl
      rcases hl with hl | hl
      · exact List.mem_of_mem_filter hl
      · exact absurd hl.1 hne
    · -- a node is linked only once it accepted, and then the round judged the execution running
      rw [hlinks, mem_links_addNodes, links_clearRunState] at hn
      have hacc : n ∈ NodeOutcome.succeeded os := by simpa using hn
      exact judgeDispatch_running hacc

theorem stopTargets_own {exec : Execution} {req : StopRequest} {db : Database}
    (hown : req.nodeIds = []) (hexec : db.execution? req.executionId = some exec) :
    stopTargets exec req = db.nodeIds exec.id := by
  obtain ⟨-, hid, -, hnodes⟩ := execution?_some hexec
  rw [stopTargets, hown, hnodes, hid]
  rfl

section OwnRound

variable (exec : Execution) {s : Site} (hnd : s.db.links.Nodup)
include hnd

theorem stopRound_own_answers (n : Int) (hn : (exec.id, n) ∈ s.db.links) :
    ∃ o ∈ (stopRound exec (s.db.nodeIds exec.id) s).1, o.nodeId = some n := by
  have hperm := stopRound_perm exec s (nodeIds_nodup hnd exec.id)
  have hmem : some n ∈ (stopRound exec (s.db.nodeIds exec.id) s).1.map (·.nodeId) :=
    hperm.mem_iff.mpr (List.mem_map_of_mem ((mem_nodeIds _ _ _).mpr hn))
  simpa using hmem

theorem stopRound_own_linked {o : NodeOutcome} (ho : o ∈ (stopRound exec (s.db.nodeIds exec.id) s).1) :
    ∃ n, o.nodeId = some n ∧ (exec.id, n) ∈ s.db.links := by
  have hperm := stopRound_perm exec s (nodeIds_nodup hnd exec.id)
  have hmem : o.nodeId ∈ (s.db.nodeIds exec.id).map some :=
    hperm.mem_iff.mp (List.mem_map_of_mem ho)
  obtain ⟨n, hn, hon⟩ := List.mem_map.mp hmem
  exact ⟨n, hon.symm, (mem_nodeIds _ _ _).mp hn⟩

end OwnRound

/-- A broadcast stop sent to all of an execution's nodes keeps the store settled: it unlinks the
nodes that stopped, and the execution stays `RUNNING` while one of them has not. -/
theorem stop_settled (ctx : RequestContext) (req : StopRequest) {s : Site} (h : s.db.Settled)
    (hown : req.broadcast = true → req.nodeIds = []) :
    ((stop ctx req).run.run s).2.db.Settled := by
  rcases stop_effect ctx req s with ⟨hrows, hlinks⟩ | ⟨exec, hb, hexec, hmay, hfree⟩
  · exact h.of_same hrows hlinks
  rw [run_stop_primary ctx req s exec hb hexec hmay hfree, stopTargets_own (hown hb) hexec]
  set outs := (stopRound exec (s.db.nodeIds exec.id) s).1
  refine h.edit rfl (fun r => by split_ifs <;> rfl)
    (h.links_nodup.sublist List.filter_sublist) (fun l hl _ => List.mem_of_mem_filter hl)
    fun n hn => ?_
  rw [links_settleStop, mem_links_removeNodes] at hn
  refine ⟨h.linked_stored _ hn.1, fun r hr hrid hlive => ?_⟩
  have hdel : r.deletedAt = none := by
    split_ifs at hlive <;> exact hlive
  have hrun : r.status = .running := h.linked_running r hr hdel n (hrid ▸ hn.1)
  -- the node still linked did not stop, so not every target stopped
  have hsome : outs.all (·.success) = false := by
    obtain ⟨o, ho, hon⟩ := stopRound_own_answers exec h.links_nodup n hn.1
    rw [List.all_eq_false]
    refine ⟨o, ho, fun hs => hn.2 ⟨rfl, ?_⟩⟩
    exact (NodeOutcome.mem_succeeded outs n).mpr ⟨o, ho, hon, by simpa using hs⟩
  simp [hrun, hsome, ExecutionStatus.isTerminal]

/-- A completion unlinks every node of the execution, so it keeps the store settled. -/
theorem complete_settled (ctx : RequestContext) (id : Int) (report : CompletionReport) {s : Site}
    (h : s.db.Settled) : ((complete ctx id report).run.run s).2.db.Settled := by
  rcases complete_effect ctx id report s with ⟨hrows, hlinks⟩ | ⟨exec, hexec, -, hrows, hlinks⟩
  · exact h.of_same hrows hlinks
  obtain ⟨-, -, -, hnodes⟩ := execution?_some hexec
  refine h.edit_unlinking hrows (fun _ => rfl) (hlinks ▸ List.filter_sublist) fun n hn => ?_
  rw [hlinks, mem_links_removeNodes, hnodes, mem_nodeIds] at hn
  exact hn.2 ⟨rfl, hn.1⟩

theorem delete_settled (ctx : RequestContext) (ids : List Int) {s : Site} (h : s.db.Settled) :
    ((delete ctx ids).run s).2.db.Settled :=
  delete_preserves Database.Settled (fun _ ctx _ hs => stop_settled ctx _ hs fun _ => rfl)
    (fun _ id now hdb => hdb.softDelete id now) ctx ids _ h

end Orchestrator

theorem Request.serve_settled (req : Request) (hown : req.StopsOwnNodes) {s : Site}
    (h : s.db.Settled) : (req.serve s).Settled := by
  cases req with
  | create new =>
    dsimp only [Request.serve]
    split
    · exact h.create ‹_›
    · exact h
  | updateThreads id t =>
    dsimp only [Request.serve]
    split
    · exact h.updateThreads ‹_›
    · exact h
  | start ctx req => exact Orchestrator.start_settled ctx req h
  | stop ctx req => exact Orchestrator.stop_settled ctx req h hown
  | complete ctx id report => exact Orchestrator.complete_settled ctx id report h
  | delete ctx ids => exact Orchestrator.delete_settled ctx ids h

/-- Requests whose broadcast stops name no nodes keep the store settled. -/
theorem serveAll_settled {db : Database} (h : db.Settled) {visits : List Visit}
    (hown : ∀ v ∈ visits, v.request.StopsOwnNodes) : (serveAll db visits).Settled :=
  serveAll_induction (fun v => v.request.StopsOwnNodes)
    (fun v _ hv hdb => v.request.serve_settled hv hdb) visits db hown h

/-- From an empty store, every run of creates, thread updates, starts, stops, completions and
deletes whose broadcast stops name no nodes leaves no finished execution linked to a node,
whatever the agents and the sibling instances answer. -/
theorem finished_executions_run_nowhere (db : Database) (visits : List Visit)
    (hrows : db.executions = []) (hlinks : db.links = [])
    (hown : ∀ v ∈ visits, v.request.StopsOwnNodes) : (serveAll db visits).FinishedUnlinked :=
  (serveAll_settled (Database.Settled.empty hrows hlinks) hown).finishedUnlinked

/-- An execution of tenant 1 of four threads and ten iterations on one node. -/
def tenantOneExecution : NewExecution :=
  { tenantId := 1, scriptType := .performance, script := "{}",
    threads := { threadCount := 4, iterationCount := 10 } }

def nodeOneLife : List Visit :=
  let visit (r : Request) : Visit := ⟨r, acceptingInstance, 1750000000000, .unreachable⟩
  [visit (.create tenantOneExecution),
   visit (.start .system { executionId := 1 }), visit (.stop .system { executionId := 1 }),
   visit (.complete .system 1 { status := .completed }), visit (.delete .system [1])]

theorem nodeOneLife_leaves_finished_unlinked :
    (∀ v ∈ nodeOneLife, v.request.StopsOwnNodes) ∧
      (serveAll { nodes := [nodeOne] } nodeOneLife).FinishedUnlinked :=
  have hown : ∀ v ∈ nodeOneLife, v.request.StopsOwnNodes := by decide
  ⟨hown, finished_executions_run_nowhere _ nodeOneLife rfl rfl hown⟩

def stopElsewhereRun : List Visit :=
  let visit (r : Request) : Visit := ⟨r, acceptingInstance, 1750000000000, .unreachable⟩
  [visit (.create tenantOneExecution), visit (.start .system { executionId := 1 }),
   visit (.stop .system { executionId := 1, nodeIds := [2] })]

/-- The stop is confirmed on node 2, so the execution becomes `STOPPED` while it still runs on
node 1. -/
theorem stopElsewhere_leaves_stopped_execution_linked :
    ¬ (serveAll { nodes := [nodeOne] } stopElsewhereRun).FinishedUnlinked := by
  intro hdone
  have hstopped : ((serveAll { nodes := [nodeOne] } stopElsewhereRun).execution? 1).map
      (fun e => (e.status, e.nodeIds)) = some (.stopped, [1]) := by decide +kernel
  obtain ⟨e, he, hpair⟩ := Option.map_eq_some_iff.mp hstopped
  simp only [Prod.mk.injEq] at hpair
  have hnil := hdone 1 e he (by rw [hpair.1]; rfl)
  rw [hpair.2] at hnil
  cases hnil

end LoadDispatch
