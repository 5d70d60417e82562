import Mathlib
import LoadDispatch.Proofs.ExactReadBack
import LoadDispatch.Store.Executions
import LoadDispatch.Proofs.Tables

/-!
What the sample tables give back: a summary and usage rows as they read back from their JSON form,
case samples in order, and one usage row per node, the last one saved, in node order.
-/
namespace LoadDispatch

namespace Json

@[simp] theorem normal_ofNat (n : Nat) : normal (ofNat n) = ofNat n := rfl

@[simp] theorem normal_ofFloat (x : Binary64) : normal (ofFloat x) = ofFloat x := rfl

theorem normal_ofInt (n : Int) : normal (ofInt n) = ofInt n := by
  unfold ofInt
  split <;> rfl

@[simp] theorem normal_opt_ofFloat (x : Option Binary64) : normal (opt ofFloat x) = opt ofFloat x := by
  cases x <;> rfl

@[simp] theorem depth_ofNat (n : Nat) : depth (ofNat n) = 0 := rfl

@[simp] theorem depth_ofFloat (x : Binary64) : depth (ofFloat x) = 0 := rfl

@[simp] theorem depth_ofInt (n : Int) : depth (ofInt n) = 0 := by
  unfold ofInt
  split <;> rfl

@[simp] theorem depth_opt_ofFloat (x : Option Binary64) : depth (opt ofFloat x) = 0 := by
  cases x <;> rfl

theorem recordWith_normal_obj (extraIgnored : Bool) (fields : List (String × Bool))
    (ms : List (String × Json)) :
    Decoder.recordWith extraIgnored fields (normal (.obj ms)) = .ok (normal (.obj ms)) := by
  rw [normal_obj]
  rfl

end Json

open Json

namespace Decoder

@[simp] theorem f64_ofFloat (x : Binary64) : f64 (ofFloat x) = .ok x := rfl

@[simp] theorem nullable_f64_opt (x : Option Binary64) : nullable f64 (opt ofFloat x) = .ok x := by
  cases x <;> rfl

theorem eq_of_i64_ofInt {n m : Int} (h : i64 (ofInt n) = .ok m) : m = n := by
  unfold ofInt at h
  split at h
  · simp only [i64, intOfWidth] at h
    split at h
    · cases h
      omega
    · cases h
  · simp only [i64, intOfWidth] at h
    split at h
    · cases h
      rfl
    · cases h

theorem eq_of_u64_ofNat {n m : Nat} (h : u64 (ofNat n) = .ok m) : m = n := by
  simp only [u64, natBelow, ofNat] at h
  split at h
  · cases h
    rfl
  · cases h

end Decoder

/-- A value whose numbers read back, nested less deep than the reader allows, and which its decoder
reads from its normal form as itself, is kept as it is. -/
theorem reread_eq_self {α : Type} {toJson : α → Json} {decode : Decoder α} {v : α}
    (hnum : numbersReadBack (toJson v) = true) (hdepth : depth (toJson v) < 128)
    (hdec : ∀ w, decode (normal (toJson v)) = .ok w → w = v) : reread toJson decode v = v := by
  unfold reread
  rw [parse_render_normal hnum hdepth]
  dsimp only
  split
  · next w hw => exact hdec w hw
  · rfl

namespace SampleSummary

theorem decode_normal_toJson (x : SampleSummary) :
    decode (normal x.toJson) =
      ((Decoder.u64 (ofNat x.samples)).mapError (DecodeError.under "samples")).map
        fun n => { x with samples := n } := by
  simp only [decode, toJson, Decoder.record, recordWith_normal_obj, Decoder.fieldOr, bind,
    Except.bind, get?_normal]
  simp [Json.get?, Except.mapError]
  cases Except.mapError (DecodeError.under "samples") (Decoder.u64 (ofNat x.samples)) <;> rfl

theorem reread_eq_self {x : SampleSummary} (h : numbersReadBack x.toJson = true) : x.reread = x := by
  apply LoadDispatch.reread_eq_self h
  · simp [toJson, depth, depthMembers]
  · intro w hw
    rw [decode_normal_toJson] at hw
    rcases hu : Decoder.u64 (ofNat x.samples) with _ | n <;> rw [hu] at hw
    · cases hw
    · cases hw
      obtain rfl := Decoder.eq_of_u64_ofNat hu
      rfl

end SampleSummary

namespace UsageSummary

theorem decode_normal_toJson (u : UsageSummary) :
    decode (normal u.toJson) =
      ((Decoder.i64 (ofInt u.nodeId)).mapError (DecodeError.under "node_id")).map
        fun n => { u with nodeId := n } := by
  simp only [decode, toJson, Decoder.record, recordWith_normal_obj, Decoder.field,
    Decoder.fieldOpt, Decoder.fieldOr, bind, Except.bind, get?_normal]
  simp [Json.get?, normal_ofInt]
  cases Except.mapError (DecodeError.under "node_id") (Decoder.i64 (ofInt u.nodeId)) <;> rfl

theorem reread_eq_self {u : UsageSummary} (h : numbersReadBack u.toJson = true) : u.reread = u := by
  apply LoadDispatch.reread_eq_self h
  · simp [toJson, depth, depthMembers]
  · intro w hw
    rw [decode_normal_toJson] at hw
    rcases hi : Decoder.i64 (ofInt u.nodeId) with _ | n <;> rw [hi] at hw
    · cases hw
    · cases hw
      obtain rfl := Decoder.eq_of_i64_ofInt hi
      rfl

/-- Rows of distinct nodes in increasing node order, each the last row of its node in `rows`. -/
def LastPerNode (rows loaded : List UsageSummary) : Prop :=
  loaded.Pairwise (fun a b => a.nodeId < b.nodeId) ∧
    ∀ u, u ∈ loaded ↔ rows.reverse.find? (·.nodeId == u.nodeId) = some u

/-- The rows of each node given, one set of rows is laid out in one way. -/
theorem LastPerNode.unique {rows l₁ l₂ : List UsageSummary} (h₁ : LastPerNode rows l₁)
    (h₂ : LastPerNode rows l₂) : l₁ = l₂ := by
  have hperm : l₁.Perm l₂ := by
    apply (List.perm_ext_iff_of_nodup _ _).mpr
    · intro u
      rw [h₁.2, h₂.2]
    · exact h₁.1.imp fun hab => ne_of_apply_ne UsageSummary.nodeId (ne_of_lt hab)
    · exact h₂.1.imp fun hab => ne_of_apply_ne UsageSummary.nodeId (ne_of_lt hab)
  exact hperm.eq_of_pairwise (fun _ _ _ _ hab hba => absurd (hab.trans hba) (lt_irrefl _)) h₁.1 h₂.1

def writeRow (rows : List UsageSummary) (u : UsageSummary) : List UsageSummary :=
  rows.filter (·.nodeId != u.nodeId) ++ [u]

theorem mem_writeRow {rows : List UsageSummary} {u v : UsageSummary} :
    v ∈ writeRow rows u ↔ (v ∈ rows ∧ v.nodeId ≠ u.nodeId) ∨ v = u := by
  simp [writeRow]

theorem pairwise_writeRow {rows : List UsageSummary}
    (h : rows.Pairwise fun a b => a.nodeId ≠ b.nodeId) (u : UsageSummary) :
    (writeRow rows u).Pairwise fun a b => a.nodeId ≠ b.nodeId := by
  unfold writeRow
  rw [List.pairwise_append]
  refine ⟨h.filter _, List.pairwise_singleton _ _, fun a ha b hb => ?_⟩
  rw [List.mem_singleton.mp hb]
  simpa using (List.mem_filter.mp ha).2

/-- After rows are written one by one, a row is there when it is the last written of its node,
or was there before and no row of its node was written. -/
theorem mem_foldl_writeRow {v : UsageSummary} :
    ∀ (us rows : List UsageSummary), v ∈ us.foldl writeRow rows ↔
      us.reverse.find? (·.nodeId == v.nodeId) = some v ∨
        (v ∈ rows ∧ ∀ w ∈ us, w.nodeId ≠ v.nodeId)
  | [], rows => by simp
  | u :: us, rows => by
    rw [List.foldl_cons, mem_foldl_writeRow us, mem_writeRow, List.reverse_cons,
      List.find?_append]
    by_cases hlater : us.reverse.find? (·.nodeId == v.nodeId) = none
    · have hnone : ∀ w ∈ us, w.nodeId ≠ v.nodeId := by
        simpa using List.find?_eq_none.mp hlater
      rw [hlater, Option.none_or, List.find?_singleton]
      simp only [List.mem_cons, forall_eq_or_imp]
      constructor
      · rintro (h | ⟨⟨hv, hne⟩ | rfl, -⟩)
        · cases h
        · exact .inr ⟨hv, Ne.symm hne, hnone⟩
        · exact .inl (by simp)
      · rintro (h | ⟨hv, hne, -⟩)
        · split at h
          · exact .inr ⟨.inr (Option.some.inj h).symm, hnone⟩
          · cases h
        · exact .inr ⟨.inl ⟨hv, Ne.symm hne⟩, hnone⟩
    · obtain ⟨w, hw⟩ := Option.ne_none_iff_exists'.mp hlater
      have hwid : w.nodeId = v.nodeId := by
        simpa using List.find?_some hw
      have hwmem : w ∈ us := List.mem_reverse.mp (List.mem_of_find?_eq_some hw)
      rw [hw, Option.some_or]
      simp only [List.mem_cons, forall_eq_or_imp]
      constructor
      · rintro (h | ⟨-, h⟩)
        · exact .inl h
        · exact absurd hwid (h w hwmem)
      · rintro (h | ⟨-, -, h⟩)
        · exact .inl h
        · exact absurd hwid (h w hwmem)

theorem pairwise_foldl_writeRow :
    ∀ (us : List UsageSummary) {rows : List UsageSummary},
      rows.Pairwise (fun a b => a.nodeId ≠ b.nodeId) →
        (us.foldl writeRow rows).Pairwise fun a b => a.nodeId ≠ b.nodeId
  | [], _, h => h
  | u :: us, _, h => pairwise_foldl_writeRow us (pairwise_writeRow h u)

/-- Rows written one by one from none and sorted by node are the last row of each node. -/
theorem lastPerNode_sortBy (us : List UsageSummary) :
    LastPerNode us (sortBy (fun a b => decide (a.nodeId ≤ b.nodeId)) (us.foldl writeRow [])) := by
  have hdistinct := (sortBy_perm (fun a b => decide (a.nodeId ≤ b.nodeId))
    (us.foldl writeRow [])).pairwise_iff (fun h => Ne.symm h) |>.mpr
    (pairwise_foldl_writeRow us List.Pairwise.nil)
  have hsorted := pairwise_sortBy (fun a b : UsageSummary => decide (a.nodeId ≤ b.nodeId))
    (fun _ _ _ hab hbc => by simp only [decide_eq_true_eq] at *; omega)
    (fun a b => by simp only [decide_eq_true_eq]; omega) (us.foldl writeRow [])
  refine ⟨(hsorted.and hdistinct).imp fun h => ?_, fun v => ?_⟩
  · exact lt_of_le_of_ne (of_decide_eq_true h.1) h.2
  · rw [mem_sortBy, mem_foldl_writeRow]
    simp

end UsageSummary

namespace Database

open UsageSummary

def usageOf (us : List (Int × UsageSummary)) (id : Int) : List UsageSummary :=
  (us.filter (·.1 == id)).map (·.2)

theorem usageOf_save (us : List (Int × UsageSummary)) (id : Int) (u : UsageSummary) :
    usageOf ((us.filter fun e => !(e.1 == id && e.2.nodeId == u.nodeId)) ++ [(id, u.reread)]) id =
      (usageOf us id).filter (·.nodeId != u.nodeId) ++ [u.reread] := by
  unfold usageOf
  rw [List.filter_append, List.filter_filter, List.map_append, List.filter_map, List.filter_filter]
  congr 1
  · congr 1
    apply List.filter_congr
    intro e _
    simp only [bne, Function.comp_apply]
    cases e.1 == id <;> cases e.2.nodeId == u.nodeId <;> rfl
  · simp

theorem usageOf_foldl_save (id : Int) :
    ∀ (vs : List UsageSummary) (us : List (Int × UsageSummary)), (∀ u ∈ vs, u.reread = u) →
      usageOf (vs.foldl (fun us u =>
          (us.filter fun e => !(e.1 == id && e.2.nodeId == u.nodeId)) ++ [(id, u.reread)]) us) id =
        vs.foldl writeRow (usageOf us id)
  | [], _, _ => rfl
  | v :: vs, us, h => by
    rw [List.foldl_cons, List.foldl_cons, usageOf_foldl_save id vs _ fun u hu => h u (.tail _ hu),
      usageOf_save, h v (.head _)]
    rfl

variable (db : Database) (id : Int) (s : RunSamples)

/-- The summary saved for a run is loaded back as it reads back. -/
theorem summary_loadSamples_saveSamples :
    ((db.saveSamples id s).loadSamples id).summary = s.summary.map SampleSummary.reread := by
  simp only [loadSamples, saveSamples, List.find?_append]
  have hold : (db.summaries.filter (·.1 != id)).find? (·.1 == id) = none := by
    simp [List.find?_eq_none]
  rw [hold, Option.none_or]
  cases s.summary <;> simp

/-- The case samples saved for a run are loaded back in order. -/
theorem cases_loadSamples_saveSamples :
    ((db.saveSamples id s).loadSamples id).cases = s.cases := by
  have hold : (db.caseSamples.filter (·.1 != id)).filter (·.1 == id) = [] := by
    simp [List.filter_filter]
  simp [loadSamples, saveSamples, List.filter_append, hold, List.filter_map, Function.comp_def]

/-- The usage rows saved for a run, when they read back as themselves, are loaded back as the last
row of each node, in node order. -/
theorem usage_loadSamples_saveSamples (h : ∀ u ∈ s.usage, u.reread = u) :
    LastPerNode s.usage ((db.saveSamples id s).loadSamples id).usage := by
  have hrows := usageOf_foldl_save id s.usage (db.usage.filter (·.1 != id)) h
  have hnone : usageOf (db.usage.filter (·.1 != id)) id = [] := by
    simp [usageOf]
  rw [hnone] at hrows
  unfold loadSamples saveSamples
  dsimp only
  rw [← usageOf, hrows]
  exact lastPerNode_sortBy s.usage

end Database

end LoadDispatch
