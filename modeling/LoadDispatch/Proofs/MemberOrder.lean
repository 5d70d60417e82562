import LoadDispatch.Json.Writer
import Mathlib.Data.List.Sort
import Mathlib.Data.String.Basic

/-!
The writer puts an object's members in key order with the last member of each key kept, so looking a
key up in the written members finds what it finds in the object (`get?_keyOrder`).
-/
namespace LoadDispatch.Json

def keyLE {α : Type} (a b : String × α) : Prop := a.1 ≤ b.1

instance {α : Type} : DecidableRel (@keyLE α) := fun a b => inferInstanceAs (Decidable (a.1 ≤ b.1))

instance {α : Type} : Std.Total (@keyLE α) := ⟨fun a b => le_total a.1 b.1⟩

instance {α : Type} : IsTrans (String × α) keyLE := ⟨fun _ _ _ h₁ h₂ => le_trans h₁ h₂⟩

/-- Puts a member in front, in place of a first member of the same key. -/
def keepFirst {α : Type} (m : String × α) : List (String × α) → List (String × α)
  | n :: rest => if n.1 == m.1 then m :: rest else m :: n :: rest
  | [] => [m]

/-- Keeps the first member of each run of one key. -/
def firstOfRuns {α : Type} (ms : List (String × α)) : List (String × α) := ms.foldr keepFirst []

/-- Members in key order with the last member of each key kept. -/
def keyOrder {α : Type} (ms : List (String × α)) : List (String × α) :=
  firstOfRuns (ms.reverse.insertionSort keyLE)

theorem insertMember_eq (m : String × String) (ms : List (String × String)) :
    insertMember m ms = ms.orderedInsert keyLE m := by
  induction ms with
  | nil => rfl
  | cons n ms ih =>
    simp only [insertMember, List.orderedInsert, ih]
    rfl

theorem orderMembers_eq (ms : List (String × String)) : orderMembers ms = keyOrder ms := by
  have hsort : ∀ l : List (String × String), l.foldr insertMember [] = l.insertionSort keyLE := by
    intro l
    induction l with
    | nil => rfl
    | cons m l ih => simp [List.foldr_cons, ih, insertMember_eq, List.insertionSort]
  unfold orderMembers keyOrder firstOfRuns
  rw [hsort]
  simp only []
  congr 1
  funext m acc
  rcases acc with _ | ⟨n, t⟩ <;> rfl

theorem keepFirst_map {α β : Type} (f : α → β) (m : String × α) (ms : List (String × α)) :
    keepFirst (m.1, f m.2) (ms.map fun m => (m.1, f m.2)) =
      (keepFirst m ms).map fun m => (m.1, f m.2) := by
  cases ms with
  | nil => rfl
  | cons n rest => by_cases hk : n.1 = m.1 <;> simp [keepFirst, hk]

theorem firstOfRuns_map {α β : Type} (f : α → β) (ms : List (String × α)) :
    firstOfRuns (ms.map fun m => (m.1, f m.2)) = (firstOfRuns ms).map fun m => (m.1, f m.2) := by
  induction ms with
  | nil => rfl
  | cons m ms ih =>
    simp only [firstOfRuns, List.map_cons, List.foldr_cons] at ih ⊢
    rw [ih, keepFirst_map]

theorem keyOrder_map {α β : Type} (f : α → β) (ms : List (String × α)) :
    keyOrder (ms.map fun m => (m.1, f m.2)) = (keyOrder ms).map fun m => (m.1, f m.2) := by
  unfold keyOrder
  rw [← List.map_reverse, ← List.map_insertionSort keyLE keyLE (fun m : String × α => (m.1, f m.2))
    ms.reverse fun _ _ _ _ => Iff.rfl, firstOfRuns_map]

section Lookup

variable {α : Type} (k : String)

theorem mem_keepFirst {m x : String × α} {ms : List (String × α)} (h : x ∈ keepFirst m ms) :
    x = m ∨ x ∈ ms := by
  cases ms with
  | nil => simpa [keepFirst] using h
  | cons n rest =>
    by_cases hk : n.1 = m.1
    · simp only [keepFirst, hk, beq_self_eq_true, if_true, List.mem_cons] at h
      rcases h with h | h
      · exact .inl h
      · exact .inr (List.mem_cons_of_mem _ h)
    · have hne : (n.1 == m.1) = false := by simpa using hk
      simp only [keepFirst, hne, Bool.false_eq_true, if_false] at h
      exact List.mem_cons.mp h

theorem mem_firstOfRuns {ms : List (String × α)} {m : String × α} (h : m ∈ firstOfRuns ms) :
    m ∈ ms := by
  induction ms with
  | nil => simp [firstOfRuns] at h
  | cons n ms ih =>
    rcases mem_keepFirst h with rfl | h
    · exact List.mem_cons_self
    · exact List.mem_cons_of_mem _ (ih h)

theorem find?_keepFirst (m : String × α) (ms : List (String × α)) :
    (keepFirst m ms).find? (·.1 == k) = (m :: ms).find? (·.1 == k) := by
  cases ms with
  | nil => rfl
  | cons n rest =>
    by_cases hn : n.1 = m.1
    · -- the dropped member has the key of `m`, found first either way
      by_cases hm : m.1 = k <;> simp [keepFirst, hn, hm]
    · simp [keepFirst, hn]

theorem find?_firstOfRuns (ms : List (String × α)) :
    (firstOfRuns ms).find? (·.1 == k) = ms.find? (·.1 == k) := by
  induction ms with
  | nil => rfl
  | cons m ms ih =>
    simp only [firstOfRuns, List.foldr_cons] at ih ⊢
    rw [find?_keepFirst, List.find?_cons, List.find?_cons, ih]

/-- A member inserted by key goes before every member of its own key. -/
theorem filter_orderedInsert (m : String × α) (ms : List (String × α)) :
    (ms.orderedInsert keyLE m).filter (·.1 == k) = (m :: ms).filter (·.1 == k) := by
  induction ms with
  | nil => rfl
  | cons n ms ih =>
    by_cases hle : keyLE m n
    · rw [List.orderedInsert_cons_of_le _ _ hle]
    · rw [List.orderedInsert_of_not_le _ _ hle]
      have hne : n.1 ≠ m.1 := fun h => hle (le_of_eq h.symm)
      by_cases hn : n.1 = k
      · have hm : (m.1 == k) = false := by simpa [← hn] using fun h => hne h.symm
        simp [hn, hm, ih]
      · have hn' : (n.1 == k) = false := by simpa using hn
        simp only [List.filter_cons, hn', Bool.false_eq_true, if_false, ih]

theorem find?_insertionSort (ms : List (String × α)) :
    (ms.insertionSort keyLE).find? (·.1 == k) = ms.find? (·.1 == k) := by
  rw [← List.head?_filter, ← List.head?_filter]
  congr 1
  induction ms with
  | nil => rfl
  | cons m ms ih =>
    rw [List.insertionSort_cons, filter_orderedInsert, List.filter_cons, List.filter_cons, ih]

theorem pairwise_firstOfRuns {ms : List (String × α)} (h : ms.Pairwise keyLE) :
    (firstOfRuns ms).Pairwise fun a b => a.1 < b.1 := by
  induction ms with
  | nil => exact List.Pairwise.nil
  | cons m ms ih =>
    obtain ⟨hm, hms⟩ := List.pairwise_cons.mp h
    have hrest := ih hms
    have hmem : ∀ x ∈ firstOfRuns ms, m.1 ≤ x.1 := fun x hx => hm x (mem_firstOfRuns hx)
    simp only [firstOfRuns, List.foldr_cons] at hrest hmem ⊢
    generalize List.foldr keepFirst [] ms = F at hrest hmem ⊢
    cases F with
    | nil => exact List.pairwise_singleton _ _
    | cons n rest =>
      obtain ⟨hn, hrest'⟩ := List.pairwise_cons.mp hrest
      by_cases hk : n.1 = m.1
      · -- `m` takes the place of `n`, which shares its key
        simp only [keepFirst, hk, beq_self_eq_true, if_true]
        exact List.pairwise_cons.mpr ⟨fun x hx => hk ▸ hn x hx, hrest'⟩
      · have hne : (n.1 == m.1) = false := by simpa using hk
        simp only [keepFirst, hne, Bool.false_eq_true, if_false]
        have hlt : m.1 < n.1 := lt_of_le_of_ne (hmem n List.mem_cons_self) (Ne.symm hk)
        refine List.pairwise_cons.mpr ⟨fun x hx => ?_, hrest⟩
        rcases List.mem_cons.mp hx with rfl | hx
        · exact hlt
        · exact lt_trans hlt (hn x hx)

theorem find?_reverse_of_pairwise {ms : List (String × α)}
    (h : ms.Pairwise fun a b => a.1 < b.1) :
    ms.reverse.find? (·.1 == k) = ms.find? (·.1 == k) := by
  induction ms with
  | nil => rfl
  | cons m ms ih =>
    obtain ⟨hm, hms⟩ := List.pairwise_cons.mp h
    rw [List.reverse_cons, List.find?_append, ih hms, List.find?_cons]
    by_cases hk : m.1 = k
    · -- every later key is above `k`
      have hnone : ms.find? (·.1 == k) = none := by
        rw [List.find?_eq_none]
        intro x hx
        have := hm x hx
        simp only [beq_iff_eq]
        intro hx'
        rw [hx', hk] at this
        exact lt_irrefl _ this
      simp [hnone, hk]
    · have hk' : (m.1 == k) = false := by simpa using hk
      simp [hk']

/-- Looking a key up in the members in key order finds the last member of that key. -/
theorem find?_reverse_keyOrder (ms : List (String × α)) :
    (keyOrder ms).reverse.find? (·.1 == k) = ms.reverse.find? (·.1 == k) := by
  unfold keyOrder
  rw [find?_reverse_of_pairwise k (pairwise_firstOfRuns (List.pairwise_insertionSort keyLE _)),
    find?_firstOfRuns, find?_insertionSort]

end Lookup

theorem get?_keyOrder (ms : List (String × Json)) (k : String) :
    (Json.obj (keyOrder ms)).get? k = (Json.obj ms).get? k := by
  simp only [Json.get?, find?_reverse_keyOrder]

end LoadDispatch.Json
