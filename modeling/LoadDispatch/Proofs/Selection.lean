import LoadDispatch.Proofs.Operations
import LoadDispatch.Proofs.Tables

/-!
What a node selection picks: the pool's candidates that pass the filters, in the strategy's order,
cut after the count; so at least one node, and never one twice.
-/
namespace LoadDispatch

open Orchestrator

theorem rotateLeft_perm {α : Type} (xs : List α) (i : Nat) : (xs.rotateLeft i).Perm xs := by
  unfold List.rotateLeft
  dsimp only
  split
  · exact List.Perm.refl xs
  · have h : (xs.drop (i % xs.length) ++ xs.take (i % xs.length)).Perm
        (xs.take (i % xs.length) ++ xs.drop (i % xs.length)) := List.perm_append_comm
    rwa [List.take_append_drop] at h

theorem orderCandidates_perm (shuffle : Shuffle) (cs : List NodeInfo) (strategy : SelectionStrategy)
    (cursor : Nat) : (orderCandidates shuffle cs strategy cursor).Perm cs := by
  cases strategy with
  | roundRobin => exact rotateLeft_perm cs _
  | idlePreferred => exact sortBy_perm _ cs
  | random => exact shuffle.perm cs

/-- A successful selection picks a prefix, of at least one node, of a non-empty list of
candidates of the pool put in the strategy's order. -/
theorem select_ok {shuffle : Shuffle} {db : Database} {now window : Int} {cursor cursor' : Nat}
    {req : SelectionRequest} {picked : List NodeInfo}
    (h : select shuffle db now window cursor req = (.ok picked, cursor')) :
    ∃ cs at_, cs ≠ [] ∧ cs.Sublist (db.candidates req.pool) ∧
      picked = (orderCandidates shuffle cs req.strategy at_).take (max req.count 1) := by
  unfold select at h
  dsimp only at h
  generalize hcs : List.filter _ (db.candidates req.pool) = cs at h
  by_cases hne : cs.isEmpty
  · rw [if_pos hne] at h
    cases h
  · rw [if_neg hne] at h
    have hcs' : cs ≠ [] ∧ cs.Sublist (db.candidates req.pool) :=
      ⟨by simpa using hne, hcs ▸ List.filter_sublist⟩
    split at h
    · split at h
      · cases h
      · cases h
        exact ⟨cs, _, hcs'.1, hcs'.2, rfl⟩
    · cases h
      exact ⟨cs, _, hcs'.1, hcs'.2, rfl⟩

theorem select_ok_ne_nil {shuffle : Shuffle} {db : Database} {now window : Int} {cursor cursor' : Nat}
    {req : SelectionRequest} {picked : List NodeInfo}
    (h : select shuffle db now window cursor req = (.ok picked, cursor')) : picked ≠ [] := by
  obtain ⟨cs, at_, hne, -, rfl⟩ := select_ok h
  have hord : orderCandidates shuffle cs req.strategy at_ ≠ [] := fun he =>
    hne (List.Perm.eq_nil (he ▸ (orderCandidates_perm shuffle cs req.strategy at_).symm))
  obtain ⟨k, hk⟩ : ∃ k, max req.count 1 = k + 1 := ⟨max req.count 1 - 1, by omega⟩
  rw [hk]
  cases hc : orderCandidates shuffle cs req.strategy at_ with
  | nil => exact absurd hc hord
  | cons c rest => simp

/-- Node ids are the keys of the registry. -/
def Database.NodeIdsUnique (db : Database) : Prop := (db.nodes.map (·.id)).Nodup

/-- Registering a node keeps node ids the registry's keys. -/
theorem register_nodeIdsUnique {db : Database} (hdb : db.NodeIdsUnique) (reg : NodeRegistration)
    (now : Int) : (db.register reg now).NodeIdsUnique :=
  upsert_keys_nodup Node.id _ hdb

theorem modifyNode_nodeIdsUnique {db : Database} (hdb : db.NodeIdsUnique) (id : Int)
    (f : Node → Node) (hf : ∀ n, (f n).id = n.id) : (db.modifyNode id f).NodeIdsUnique := by
  unfold Database.NodeIdsUnique Database.modifyNode
  have hmap : (db.nodes.map fun n => if n.id == id then f n else n).map (·.id) =
      db.nodes.map (·.id) := by
    simp only [List.map_map]
    congr 1
    funext n
    simp only [Function.comp]
    split <;> simp [hf]
  rw [hmap]
  exact hdb

theorem candidates_ids_nodup {db : Database} (hdb : db.NodeIdsUnique) (pool : NodePool) :
    ((db.candidates pool).map (·.id)).Nodup := by
  have hsorted : (db.nodesById.map (·.id)).Nodup :=
    hdb.perm ((sortBy_perm _ db.nodes).map _).symm
  unfold Database.candidates
  simp only [List.map_map]
  exact (List.filter_sublist.map _).nodup hsorted

theorem select_ok_nodup {shuffle : Shuffle} {db : Database} (hdb : db.NodeIdsUnique) {now window : Int}
    {cursor cursor' : Nat} {req : SelectionRequest} {picked : List NodeInfo}
    (h : select shuffle db now window cursor req = (.ok picked, cursor')) :
    (picked.map (·.id)).Nodup := by
  obtain ⟨cs, at_, -, hsub, rfl⟩ := select_ok h
  have hcs : (cs.map (·.id)).Nodup := (hsub.map _).nodup (candidates_ids_nodup hdb req.pool)
  have hord : ((orderCandidates shuffle cs req.strategy at_).map (·.id)).Nodup :=
    hcs.perm ((orderCandidates_perm shuffle cs req.strategy at_).map _).symm
  exact ((List.take_sublist _ _).map _).nodup hord

namespace Orchestrator

theorem Selected.ne_nil {db : Database} {targets : List Int} (h : Selected db targets) :
    targets ≠ [] := by
  obtain ⟨_, _, _, _, _, picked, _, hsel, rfl⟩ := h
  simpa using select_ok_ne_nil hsel

theorem Selected.nodup {db : Database} {targets : List Int} (h : Selected db targets)
    (hdb : db.NodeIdsUnique) : targets.Nodup := by
  obtain ⟨_, _, _, _, _, picked, _, hsel, rfl⟩ := h
  exact select_ok_nodup hdb hsel

end Orchestrator

end LoadDispatch
