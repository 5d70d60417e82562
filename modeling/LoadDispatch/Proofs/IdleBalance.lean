import LoadDispatch.Proofs.SelectionAnswer
import LoadDispatch.Proofs.TrialCaps
import LoadDispatch.Proofs.Settled

/-!
Idle-preferred placement keeps a tenant's nodes evenly loaded. A start of a fresh execution picks
the least loaded enabled nodes of the tenant, so loads that differed by at most one still do
afterwards, and a run of such starts and creations keeps them balanced after every step.
-/
namespace LoadDispatch

/-- The loads of a tenant's enabled nodes differ pairwise by at most one. -/
def Database.Balanced (db : Database) (tenant : Int) : Prop :=
  ∀ a ∈ db.nodes, ∀ b ∈ db.nodes, a.enabled = true → b.enabled = true →
    a.inPool (.tenant tenant) = true → b.inPool (.tenant tenant) = true →
      db.activeExecutions a.id ≤ db.activeExecutions b.id + 1

instance (db : Database) (t : Int) : Decidable (db.Balanced t) := by
  unfold Database.Balanced
  infer_instance

namespace Database

variable {db db' : Database} {t : Int}

theorem Balanced.of_links (h : db.Balanced t) (hnodes : db'.nodes = db.nodes)
    (hlinks : db'.links = db.links) : db'.Balanced t := by
  unfold Balanced activeExecutions at *
  rw [hnodes, hlinks]
  exact h

/-- Loading each node of `picked` once more keeps loads balanced when no picked node of the
tenant was loaded more than an enabled node of the tenant left out. -/
theorem Balanced.load {picked : List Int} (h : db.Balanced t) (hnodes : db'.nodes = db.nodes)
    (hload : ∀ n, db'.activeExecutions n = db.activeExecutions n + if n ∈ picked then 1 else 0)
    (hleast : ∀ a ∈ db.nodes, ∀ b ∈ db.nodes, b.enabled = true → b.inPool (.tenant t) = true →
      a.id ∈ picked → b.id ∉ picked → db.activeExecutions a.id ≤ db.activeExecutions b.id) :
    db'.Balanced t := by
  intro a ha b hb hae hbe hat hbt
  rw [hnodes] at ha hb
  have hab := h a ha b hb hae hbe hat hbt
  rw [hload, hload]
  by_cases hap : a.id ∈ picked <;> by_cases hbp : b.id ∈ picked
  · simp only [hap, hbp, if_true]
    omega
  · have hle := hleast a ha b hb hbe hbt hap hbp
    simp only [hap, hbp, if_true, if_false]
    omega
  · simp only [hap, hbp, if_true, if_false]
    omega
  · simp only [hap, hbp, if_false]
    omega

theorem activeExecutions_addNodes_fresh {id : Int} {nodes : List Int} (hnd : nodes.Nodup)
    (hfresh : ∀ n, (id, n) ∉ db.links) (n : Int) :
    (db.addNodes id nodes).activeExecutions n =
      db.activeExecutions n + if n ∈ nodes then 1 else 0 := by
  unfold addNodes activeExecutions
  dsimp only
  rw [addLinks_fresh id hnd (fun m _ => hfresh m), List.filter_append, List.length_append,
    List.filter_map, List.length_map]
  congr 1
  have hcount : (nodes.filter ((fun l : Int × Int => l.2 == n) ∘ fun m => (id, m))).length =
      nodes.count n := by
    rw [List.count_eq_length_filter]
    rfl
  rw [hcount]
  by_cases hn : n ∈ nodes
  · rw [if_pos hn, List.count_eq_one_of_mem hnd hn]
  · rw [if_neg hn, List.count_eq_zero_of_not_mem hn]

theorem clearRunState_links_fresh {id : Int} (hfresh : db.nodeIds id = []) :
    (db.clearRunState id).links = db.links := by
  unfold clearRunState
  refine List.filter_eq_self.mpr fun l hl => ?_
  have hl' : l.1 ≠ id := fun h => by
    have hmem : l.2 ∈ db.nodeIds id := (mem_nodeIds db id l.2).mpr (h ▸ hl)
    rw [hfresh] at hmem
    exact List.not_mem_nil hmem
  simpa using hl'

theorem activeExecutions_fresh_round {id : Int} {nodes : List Int} (hnd : nodes.Nodup)
    (hfresh : db.nodeIds id = []) (st : ExecutionStatus) (n : Int) :
    (((db.setStatus id st).clearRunState id).addNodes id nodes).activeExecutions n =
      db.activeExecutions n + if n ∈ nodes then 1 else 0 := by
  have hgone : ∀ m, (id, m) ∉ ((db.setStatus id st).clearRunState id).links := by
    intro m hm
    rw [links_clearRunState, List.mem_filter] at hm
    simp at hm
  have hcl : ((db.setStatus id st).clearRunState id).links = db.links :=
    clearRunState_links_fresh (hfresh : (db.setStatus id st).nodeIds id = [])
  rw [activeExecutions_addNodes_fresh hnd hgone n]
  congr 1
  unfold activeExecutions
  rw [hcl]

theorem create_nodes_links {new : NewExecution} {id : Int} (h : db.create new = .ok (id, db')) :
    db'.nodes = db.nodes ∧ db'.links = db.links := by
  unfold create at h
  split at h
  · cases h
  · cases h
    exact ⟨rfl, rfl⟩

theorem updateThreads_nodes_links {id : Int} {th : ThreadConfig}
    (h : db.updateThreads id th = .ok db') :
    db'.nodes = db.nodes ∧ db'.links = db.links := by
  unfold updateThreads at h
  split at h
  · cases h
  · split at h
    · cases h
    · cases h
      exact ⟨rfl, rfl⟩

end Database

namespace Orchestrator

def tenantRequest (cfg : ControllerConfig) (exec : Execution) (requested : List Int) :
    SelectionRequest :=
  { count := exec.nodeCount, pool := .tenant exec.tenantId,
    available := if requested.isEmpty then exec.nodePool else some requested,
    strategy := exec.strategy.getD cfg.dispatch.defaultStrategy,
    requireLive := cfg.dispatch.requireLive }

theorem selectNodes_untrial {ctx : RequestContext} {exec : Execution} (hexec : exec.trial = false)
    (hctx : ctx.trialTenant = false) (requested : List Int) (s : Site) :
    (selectNodes ctx exec requested).run.run s =
      (selectWith (tenantRequest s.ctl.config exec requested)).run.run s := by
  unfold selectNodes
  simp only [run_bind, run_get, hexec, hctx, Bool.or_false, Bool.false_eq_true, if_false]
  rfl

end Orchestrator

open Orchestrator

/-- An execution of tenant `t` placed by load: no trial, no node pool, and idle-preferred by its
own strategy or else the instance's default. -/
structure Execution.PlacedIdle (cfg : ControllerConfig) (t : Int) (exec : Execution) : Prop where
  tenant : exec.tenantId = t
  untrial : exec.trial = false
  no_pool : exec.nodePool = none
  idle : exec.strategy.getD cfg.dispatch.defaultStrategy = .idlePreferred

instance (cfg : ControllerConfig) (t : Int) (exec : Execution) :
    Decidable (exec.PlacedIdle cfg t) :=
  decidable_of_iff (exec.tenantId = t ∧ exec.trial = false ∧ exec.nodePool = none ∧
      exec.strategy.getD cfg.dispatch.defaultStrategy = .idlePreferred)
    ⟨fun ⟨a, b, c, d⟩ => ⟨a, b, c, d⟩, fun ⟨a, b, c, d⟩ => ⟨a, b, c, d⟩⟩

theorem Execution.PlacedIdle.request {cfg : ControllerConfig} {t : Int} {exec : Execution}
    (h : exec.PlacedIdle cfg t) :
    (tenantRequest cfg exec []).strategy = .idlePreferred ∧
      (tenantRequest cfg exec []).pool = .tenant t ∧
      (tenantRequest cfg exec []).available = none ∧ (tenantRequest cfg exec []).exclude = [] :=
  ⟨h.idle, by rw [← h.tenant]; rfl, h.no_pool, rfl⟩

/-- A broadcast start naming no nodes, not from a trial tenant, of an execution of tenant `t` placed
by load with no nodes yet, whose node outcomes are all acceptances. -/
structure IdleStart (t : Int) (s : Site) (ctx : RequestContext) (req : StartRequest) : Prop where
  broadcast : req.broadcast = true
  no_nodes : req.nodeIds = []
  ctx_untrial : ctx.trialTenant = false
  fresh : ∀ e ∈ s.db.execution? req.executionId,
    e.PlacedIdle s.ctl.config t ∧ s.db.nodeIds e.id = []
  accepted : ∀ outcomes ∈ ((start ctx req).run.run s).1.toOption, ∀ o ∈ outcomes, o.success = true

instance (t : Int) (s : Site) (ctx : RequestContext) (req : StartRequest) :
    Decidable (IdleStart t s ctx req) :=
  decidable_of_iff (req.broadcast = true ∧ req.nodeIds = [] ∧ ctx.trialTenant = false ∧
      (∀ e ∈ s.db.execution? req.executionId,
        e.PlacedIdle s.ctl.config t ∧ s.db.nodeIds e.id = []) ∧
      ∀ outcomes ∈ ((start ctx req).run.run s).1.toOption, ∀ o ∈ outcomes, o.success = true)
    ⟨fun ⟨a, b, c, d, e⟩ => ⟨a, b, c, d, e⟩, fun ⟨a, b, c, d, e⟩ => ⟨a, b, c, d, e⟩⟩

theorem idle_picks_least {db : Database} (hdb : db.NodeIdsUnique) {shuffle : Shuffle}
    {req : SelectionRequest} {cursor : Nat} {t : Int} (hidle : req.strategy = .idlePreferred) (hpool : req.pool = .tenant t)
    (havail : req.available = none) (hex : req.exclude = []) :
    ∀ a ∈ db.nodes, ∀ b ∈ db.nodes, b.enabled = true → b.inPool (.tenant t) = true →
      a.id ∈ (db.picks shuffle req cursor).map (·.id) → b.id ∉ (db.picks shuffle req cursor).map (·.id) →
        db.activeExecutions a.id ≤ db.activeExecutions b.id := by
  intro a ha b hb hbe hbt hapick hbpick
  obtain ⟨m, hm, hmid⟩ := List.mem_map.mp hapick
  obtain ⟨n, hn, -, rfl⟩ := Database.mem_admitted.mp (Database.mem_admitted_of_mem_picks hm)
  have hna : n = a := List.inj_on_of_nodup_map hdb hn ha (by simpa using hmid)
  subst hna
  have hbadm : db.info b ∈ db.admitted req := by
    refine Database.mem_admitted.mpr ⟨b, hb, ⟨hbe, hpool ▸ hbt, ?_, ?_⟩, rfl⟩
    · intro allowed h
      rw [havail] at h
      cases h
    · rw [hex]
      exact List.not_mem_nil
  have hbn : db.info b ∉ db.picks shuffle req cursor := fun h =>
    hbpick (List.mem_map.mpr ⟨db.info b, h, rfl⟩)
  have hbefore := Database.picks_idle_least hdb hidle hm hbadm hbn
  unfold NodeInfo.LoadBefore at hbefore
  simp only [Database.info_activeExecutions] at hbefore
  omega

theorem Database.picks_ids_nodup {db : Database} (hdb : db.NodeIdsUnique) (shuffle : Shuffle)
    (req : SelectionRequest) (cursor : Nat) : ((db.picks shuffle req cursor).map (·.id)).Nodup :=
  (Database.picks_sublist_order.map _).nodup
    (((orderCandidates_perm _ _ _ _).map _).nodup_iff.mpr (Database.admitted_ids_nodup hdb))

theorem NodeOutcome.mem_succeeded_of_accepted {outcomes : List NodeOutcome} {targets : List Int}
    (hperm : (outcomes.map (·.nodeId)).Perm (targets.map some))
    (hall : ∀ o ∈ outcomes, o.success = true) (n : Int) :
    n ∈ NodeOutcome.succeeded outcomes ↔ n ∈ targets := by
  rw [NodeOutcome.mem_succeeded]
  constructor
  · rintro ⟨o, ho, hid, -⟩
    have hsome : some n ∈ targets.map some := hperm.subset (List.mem_map.mpr ⟨o, ho, hid⟩)
    simpa using hsome
  · intro hn
    obtain ⟨o, ho, hid⟩ := List.mem_map.mp (hperm.symm.subset (List.mem_map_of_mem hn))
    exact ⟨o, ho, hid, hall o ho⟩

/-- An idle round of a fresh execution on a balanced registry keyed by id keeps the nodes and the
tenant's loads balanced: it links only the nodes it picked, the least loaded. -/
theorem primaryRound_idle_balanced {ctx : RequestContext} {exec : Execution} {req : StartRequest}
    {s s' : Site} {r : Except SchedulingFailure (List NodeOutcome)} {t : Int}
    (h : primaryRound ctx exec req s = (r, s')) (hctx : ctx.trialTenant = false)
    (hnone : req.nodeIds = []) (hplaced : exec.PlacedIdle s.ctl.config t)
    (hfresh : s.db.nodeIds exec.id = [])
    (haccepted : ∀ outcomes ∈ r.toOption, ∀ o ∈ outcomes, o.success = true)
    (hdb : s.db.NodeIdsUnique) (hbal : s.db.Balanced t) :
    s'.db.nodes = s.db.nodes ∧ s'.db.Balanced t := by
  rcases r with f | outcomes
  · have hframe : s'.db.nodes = s.db.nodes ∧ s'.db.links = s.db.links := by
      rcases primaryRound_error h with hdb' | hdb' <;> rw [hdb']
      · exact ⟨rfl, rfl⟩
      · exact ⟨rfl, Database.clearRunState_links_fresh
          (hfresh : (s.db.setStatus exec.id .scheduling).nodeIds exec.id = [])⟩
    exact ⟨hframe.1, hbal.of_links hframe.1 hframe.2⟩
  · obtain ⟨targets, s₁, hsel, hperm, hdb'⟩ := primaryRound_ok_selection h
    rw [hnone, selectNodes_untrial hplaced.untrial hctx] at hsel
    obtain ⟨window, cursor', picked, hpick, rfl⟩ := selectWith_ok hsel
    obtain ⟨hidle, hpool, havail, hex⟩ := hplaced.request
    have hpicked :
        picked = s.db.picks s.ctl.shuffle (tenantRequest s.ctl.config exec []) s.ctl.cursor :=
      ((select_answered s.ctl.shuffle s.db hdb s.now window s.ctl.cursor _).ok_live picked
        (by rw [hpick])).1
    have hpicked_nodup : (picked.map (·.id)).Nodup := by
      rw [hpicked]
      exact Database.picks_ids_nodup hdb _ _ _
    have hsucc : ∀ n, n ∈ NodeOutcome.succeeded outcomes ↔ n ∈ picked.map (·.id) :=
      NodeOutcome.mem_succeeded_of_accepted (hperm hdb) (haccepted outcomes rfl)
    have hnd : (NodeOutcome.succeeded outcomes).Nodup := NodeOutcome.succeeded_nodup
      ((hperm hdb).nodup_iff.mpr (hpicked_nodup.map (Option.some_injective _)))
    have hload : ∀ n, s'.db.activeExecutions n =
        s.db.activeExecutions n + if n ∈ NodeOutcome.succeeded outcomes then 1 else 0 := by
      intro n
      rw [← Database.activeExecutions_fresh_round hnd hfresh .scheduling n, hdb']
      rfl
    have hnodes : s'.db.nodes = s.db.nodes := by
      rw [hdb']
      rfl
    refine ⟨hnodes, hbal.load hnodes hload ?_⟩
    intro a ha b hb hbe hbt hapick hbpick
    rw [hsucc, hpicked] at hapick hbpick
    exact idle_picks_least hdb hidle hpool havail hex a ha b hb hbe hbt hapick hbpick

/-- An idle start on a balanced registry keyed by id keeps the nodes and the tenant's loads
balanced; turned away before or at the lock it writes nothing but the lock. -/
theorem start_idle_balanced {t : Int} {s : Site} {ctx : RequestContext} {req : StartRequest}
    (hstart : IdleStart t s ctx req) (hdb : s.db.NodeIdsUnique) (hbal : s.db.Balanced t) :
    ((start ctx req).run.run s).2.db.nodes = s.db.nodes ∧
      ((start ctx req).run.run s).2.db.Balanced t := by
  have hacc := hstart.accepted
  rcases run_start_cases ctx req hstart.broadcast s with
    ⟨f, -, hrun⟩ | ⟨exec, -, hrun⟩ | ⟨exec, locks, hpre, hrun⟩
  · rw [hrun]
    exact ⟨rfl, hbal⟩
  · rw [hrun]
    exact ⟨rfl, hbal⟩
  · -- the round runs on the database with the lock taken, which differs only in its locks
    obtain ⟨hplaced, hfresh⟩ := hstart.fresh exec (precheck_ok hpre).1
    rw [hrun] at hacc ⊢
    rcases hr : primaryRound ctx exec req { s with db := { s.db with locks } } with ⟨r, s'⟩
    rw [hr] at hacc
    obtain ⟨hnodes, hbal'⟩ := primaryRound_idle_balanced hr hstart.ctx_untrial hstart.no_nodes
      hplaced hfresh hacc hdb hbal
    exact ⟨hnodes, hbal'.of_links rfl rfl⟩

/-- A visit of a balanced run: an execution created or its threads edited, or an idle start of
tenant `t` on the database the visit meets. -/
def IdleVisit (t : Int) (db : Database) (v : Visit) : Prop :=
  match v.request with
  | .create _ => True
  | .updateThreads _ _ => True
  | .start ctx req => IdleStart t ⟨db, v.ctl, v.now, v.siblings⟩ ctx req
  | _ => False

instance (t : Int) (db : Database) : DecidablePred (IdleVisit t db)
  | ⟨.create _, _, _, _⟩ => isTrue trivial
  | ⟨.updateThreads _ _, _, _, _⟩ => isTrue trivial
  | ⟨.start ctx req, ctl, now, siblings⟩ =>
    inferInstanceAs (Decidable (IdleStart t ⟨db, ctl, now, siblings⟩ ctx req))
  | ⟨.stop _ _, _, _, _⟩ => isFalse id
  | ⟨.complete _ _ _, _, _, _⟩ => isFalse id
  | ⟨.delete _ _, _, _, _⟩ => isFalse id

/-- A run of idle visits of tenant `t`, each on the database the visits before it leave. -/
def IdleRun (t : Int) : Database → List Visit → Prop
  | _, [] => True
  | db, v :: rest =>
    IdleVisit t db v ∧ IdleRun t (v.request.serve ⟨db, v.ctl, v.now, v.siblings⟩) rest

instance IdleRun.decidable (t : Int) : ∀ db visits, Decidable (IdleRun t db visits)
  | _, [] => isTrue trivial
  | db, v :: rest =>
    haveI := IdleRun.decidable t (v.request.serve ⟨db, v.ctl, v.now, v.siblings⟩) rest
    inferInstanceAs (Decidable (IdleVisit t db v ∧ _))

theorem IdleVisit.keeps_balance {t : Int} {db : Database} {v : Visit} (h : IdleVisit t db v)
    (hdb : db.NodeIdsUnique) (hbal : db.Balanced t) :
    (v.request.serve ⟨db, v.ctl, v.now, v.siblings⟩).nodes = db.nodes ∧
      (v.request.serve ⟨db, v.ctl, v.now, v.siblings⟩).Balanced t := by
  obtain ⟨request, ctl, now, siblings⟩ := v
  cases request with
  | create new =>
    simp only [Request.serve]
    split
    · rename_i heq
      obtain ⟨hnodes, hlinks⟩ := Database.create_nodes_links heq
      exact ⟨hnodes, hbal.of_links hnodes hlinks⟩
    · exact ⟨rfl, hbal⟩
  | updateThreads id th =>
    simp only [Request.serve]
    split
    · rename_i heq
      obtain ⟨hnodes, hlinks⟩ := Database.updateThreads_nodes_links heq
      exact ⟨hnodes, hbal.of_links hnodes hlinks⟩
    · exact ⟨rfl, hbal⟩
  | start ctx req => exact start_idle_balanced h hdb hbal
  | stop => exact h.elim
  | complete => exact h.elim
  | delete => exact h.elim

/-- Idle-preferred placement keeps a tenant's nodes balanced: from enabled-node loads differing
pairwise by at most one, in a registry keyed by node id, every run of creations, thread edits and
idle starts of fresh executions keeps them so after every visit. -/
theorem idle_starts_keep_balance (t : Int) :
    ∀ (db : Database) (visits : List Visit), db.NodeIdsUnique → db.Balanced t →
      IdleRun t db visits → ∀ k, (serveAll db (visits.take k)).Balanced t
  | db, [], _, hbal, _, k => by
    rw [List.take_nil, serveAll_nil]
    exact hbal
  | db, v :: rest, _, hbal, _, 0 => by
    rw [List.take_zero, serveAll_nil]
    exact hbal
  | db, v :: rest, hdb, hbal, ⟨hv, hrest⟩, k + 1 => by
    obtain ⟨hnodes, hbal'⟩ := hv.keeps_balance hdb hbal
    have hdb' : (v.request.serve ⟨db, v.ctl, v.now, v.siblings⟩).NodeIdsUnique := by
      unfold Database.NodeIdsUnique
      rw [hnodes]
      exact hdb
    rw [List.take_succ_cons, serveAll_cons]
    exact idle_starts_keep_balance t _ rest hdb' hbal' hrest k

def liveTrio : Database :=
  { nodes := [⟨1, some 1, "n1", "127.0.0.1", true, 1750000000000⟩,
              ⟨2, some 1, "n2", "127.0.0.1", true, 1750000000000⟩,
              ⟨3, some 1, "n3", "127.0.0.1", true, 1750000000000⟩] }

def trioInstance : Controller :=
  { config := {},
    router :=
      { routes := [1, 2, 3].map fun n => { node := n, answers := [.reply ⟨true, n, "accepted", [], 0⟩] },
        timeoutMs := 0, tailChars := 0 } }

/-- An execution of tenant 1 on one node, then one on three, each placed by load and started once
created: the second start takes the two idle nodes and spills onto the node the first one
loaded. -/
def idleSpill : List Visit :=
  let visit (r : Request) : Visit := ⟨r, trioInstance, 1750000000000, .unreachable⟩
  let idle (nodeCount : Nat) : NewExecution :=
    { tenantOneExecution with strategy := some .idlePreferred, nodeCount }
  [visit (.create (idle 1)), visit (.start .system { executionId := 1 }),
   visit (.create (idle 3)), visit (.start .system { executionId := 2 })]

theorem idleSpill_stays_balanced :
    liveTrio.NodeIdsUnique ∧ liveTrio.Balanced 1 ∧ IdleRun 1 liveTrio idleSpill ∧
      (serveAll liveTrio (idleSpill.take 4)).Balanced 1 ∧
      [1, 2, 3].map (serveAll liveTrio idleSpill).activeExecutions = [2, 1, 1] := by
  have hdb : liveTrio.NodeIdsUnique := by unfold Database.NodeIdsUnique; decide
  have hbal : liveTrio.Balanced 1 := by decide
  have hrun : IdleRun 1 liveTrio idleSpill := by decide +kernel
  exact ⟨hdb, hbal, hrun, idle_starts_keep_balance 1 _ idleSpill hdb hbal hrun 4,
    by decide +kernel⟩

end LoadDispatch
