import Mathlib
import LoadDispatch.Store.Tables

/-!
Keyed tables: an upsert keeps the keys of a table distinct and makes its row the one a lookup by key
finds, and after a run of upserts a lookup finds the last row upserted under its key.
-/
namespace LoadDispatch

section Upsert

variable {α κ : Type} [DecidableEq κ] (key : α → κ) (x : α)

theorem mem_keys_upsert {k : κ} :
    ∀ {l : List α}, k ∈ (upsert key x l).map key → k = key x ∨ k ∈ l.map key
  | [], h => by simp_all [upsert]
  | y :: ys, h => by
    unfold upsert at h
    split at h
    · rename_i hy
      simp only [List.map_cons, List.mem_cons] at h ⊢
      rcases h with h | h
      · exact .inl h
      · exact .inr (.inr h)
    · simp only [List.map_cons, List.mem_cons] at h ⊢
      rcases h with h | h
      · exact .inr (.inl h)
      · rcases mem_keys_upsert h with h | h
        · exact .inl h
        · exact .inr (.inr h)

/-- An upsert keeps the keys of a table distinct. -/
theorem upsert_keys_nodup : ∀ {l : List α}, (l.map key).Nodup → ((upsert key x l).map key).Nodup
  | [], _ => by simp [upsert]
  | y :: ys, h => by
    rw [List.map_cons, List.nodup_cons] at h
    unfold upsert
    split
    · rename_i hy
      rw [List.map_cons, List.nodup_cons, ← hy]
      exact h
    · rename_i hy
      rw [List.map_cons, List.nodup_cons]
      refine ⟨fun hm => ?_, upsert_keys_nodup h.2⟩
      rcases mem_keys_upsert key x hm with h' | h'
      · exact hy h'
      · exact h.1 h'

/-- A lookup by the key of an upserted row finds that row. -/
theorem find?_upsert_self : ∀ l : List α, (upsert key x l).find? (fun y => key y == key x) = some x
  | [] => by simp [upsert]
  | y :: ys => by
    unfold upsert
    split
    · simp
    · rename_i hy
      rw [List.find?_cons_of_neg (by simpa using hy)]
      exact find?_upsert_self ys

theorem find?_upsert_of_ne {k : κ} (hk : key x ≠ k) :
    ∀ l : List α, (upsert key x l).find? (fun y => key y == k) = l.find? (fun y => key y == k)
  | [] => by simp [upsert, hk]
  | y :: ys => by
    unfold upsert
    split
    · rename_i hy
      have hyk : key y ≠ k := hy ▸ hk
      simp [hk, hyk]
    · simp only [List.find?_cons]
      rw [find?_upsert_of_ne hk ys]

/-- In a table with distinct keys, a lookup by a row's key finds that row. -/
theorem find?_key_of_mem {k : κ} {x : α} :
    ∀ {l : List α}, (l.map key).Nodup → x ∈ l → key x = k → l.find? (fun y => key y == k) = some x
  | [], _, hx, _ => by simp at hx
  | y :: ys, hnd, hx, hk => by
    rw [List.map_cons, List.nodup_cons] at hnd
    rcases List.mem_cons.mp hx with rfl | hx
    · simp [hk]
    · have hy : key y ≠ k := fun hy => hnd.1 (by rw [hy, ← hk]; exact List.mem_map_of_mem hx)
      rw [List.find?_cons_of_neg (by simpa using hy)]
      exact find?_key_of_mem hnd.2 hx hk

/-- Filtering an upserted table is upserting the filtered one, when the rows the upsert may replace
pass the filter exactly when the new row does. -/
theorem filter_upsert (p : α → Bool) :
    ∀ {l : List α}, (∀ y ∈ l, key y = key x → p y = p x) →
      (upsert key x l).filter p = if p x then upsert key x (l.filter p) else l.filter p
  | [], _ => by by_cases hx : p x <;> simp [upsert, hx]
  | y :: ys, hp => by
    have hys := filter_upsert p fun z hz => hp z (List.mem_cons_of_mem y hz)
    by_cases hk : key y = key x
    · have hpy := hp y List.mem_cons_self hk
      by_cases hx : p x <;> simp [upsert, hk, hx, hpy]
    · by_cases hx : p x <;> by_cases hpy : p y <;> simp [upsert, hk, hx, hpy, hys]

theorem mem_upsert {z : α} : ∀ {l : List α}, z ∈ upsert key x l → z = x ∨ z ∈ l
  | [], h => by simpa [upsert] using h
  | y :: ys, h => by
    unfold upsert at h
    split at h
    · rcases List.mem_cons.mp h with h | h
      · exact .inl h
      · exact .inr (List.mem_cons_of_mem y h)
    · rcases List.mem_cons.mp h with h | h
      · exact .inr (h ▸ List.mem_cons_self)
      · rcases mem_upsert h with h | h
        · exact .inl h
        · exact .inr (List.mem_cons_of_mem y h)

theorem keys_subset_upsert {k : κ} : ∀ {l : List α}, k ∈ l.map key → k ∈ (upsert key x l).map key
  | [], h => by simp at h
  | y :: ys, h => by
    unfold upsert
    split
    · rename_i hy
      rcases List.mem_cons.mp h with h | h
      · simp [h, hy]
      · exact List.mem_cons_of_mem _ h
    · rcases List.mem_cons.mp h with h | h
      · simp [h]
      · exact List.mem_cons_of_mem _ (keys_subset_upsert h)

theorem key_mem_upsert : ∀ l : List α, key x ∈ (upsert key x l).map key
  | [] => by simp [upsert]
  | y :: ys => by
    unfold upsert
    split
    · simp
    · exact List.mem_cons_of_mem _ (key_mem_upsert ys)

theorem mem_foldl_upsert {β : Type} (f : β → α) {z : α} :
    ∀ (bs : List β) (l : List α), z ∈ bs.foldl (fun rows b => upsert key (f b) rows) l →
      z ∈ l ∨ ∃ b ∈ bs, z = f b
  | [], _, h => .inl h
  | b :: bs, l, h => by
    rcases mem_foldl_upsert f bs _ h with h | ⟨b', hb', rfl⟩
    · rcases mem_upsert key (f b) h with rfl | h
      · exact .inr ⟨b, List.mem_cons_self, rfl⟩
      · exact .inl h
    · exact .inr ⟨b', List.mem_cons_of_mem b hb', rfl⟩

/-- After a run of upserts a lookup by key finds the last upserted row of that key, or else what
it found before. -/
theorem find?_foldl_upsert {β : Type} (f : β → α) (k : κ) :
    ∀ (bs : List β) (l : List α),
      (bs.foldl (fun rows b => upsert key (f b) rows) l).find? (fun y => decide (key y = k)) =
        ((bs.reverse.find? fun b => decide (key (f b) = k)).map f).or
          (l.find? fun y => decide (key y = k))
  | [], _ => by simp
  | b :: bs, l => by
    rw [List.foldl_cons, find?_foldl_upsert f k bs, List.reverse_cons, List.find?_append]
    by_cases hb : key (f b) = k
    · have hself : (upsert key (f b) l).find? (fun y => decide (key y = k)) = some (f b) := by
        subst hb
        exact find?_upsert_self key (f b) l
      cases bs.reverse.find? (fun b' => decide (key (f b') = k)) <;> simp [hself, hb]
    · have hother : (upsert key (f b) l).find? (fun y => decide (key y = k)) =
          l.find? (fun y => decide (key y = k)) :=
        find?_upsert_of_ne key (f b) hb l
      cases bs.reverse.find? (fun b' => decide (key (f b') = k)) <;> simp [hother, hb]

theorem filter_upsert_key_ne :
    ∀ l : List α, (upsert key x l).filter (fun y => decide (key y ≠ key x)) =
      l.filter (fun y => decide (key y ≠ key x))
  | [] => by simp [upsert]
  | y :: ys => by
    unfold upsert
    split
    · rename_i hy
      simp [hy]
    · rename_i hy
      have hkeep : decide (key y ≠ key x) = true := by simpa using hy
      simp only [List.filter_cons, hkeep, if_true, filter_upsert_key_ne ys]

theorem eq_of_mem_upsert {l : List α} (hnd : (l.map key).Nodup) {y : α} (hy : y ∈ upsert key x l)
    (hk : key y = key x) : y = x := by
  have hfind := find?_key_of_mem key (upsert_keys_nodup key x hnd) hy hk
  rw [find?_upsert_self] at hfind
  exact (Option.some.inj hfind).symm

end Upsert

/-- Filtering keeps the row a lookup finds when the row passes the filter. -/
theorem find?_filter_of_find? {α : Type} {p q : α → Bool} {x : α} :
    ∀ {l : List α}, l.find? p = some x → q x = true → (l.filter q).find? p = some x
  | [], h, _ => by simp at h
  | y :: ys, h, hq => by
    by_cases hy : p y = true
    · rw [List.find?_cons_of_pos hy, Option.some.injEq] at h
      subst h
      simp [hq, hy]
    · rw [List.find?_cons_of_neg hy] at h
      rw [List.filter_cons]
      split
      · rw [List.find?_cons_of_neg hy]
        exact find?_filter_of_find? h hq
      · exact find?_filter_of_find? h hq

section SortBy

variable {α : Type} (le : α → α → Bool)

theorem insertOrdered_eq_orderedInsert (a : α) (l : List α) :
    insertOrdered le a l = l.orderedInsert (fun a b => le a b = true) a := by
  induction l with
  | nil => rfl
  | cons b l ih => simp [insertOrdered, ih]

/-- The sort of the tables is insertion sort by `le`. -/
theorem sortBy_eq_insertionSort (l : List α) :
    sortBy le l = l.insertionSort (fun a b => le a b = true) := by
  unfold sortBy List.insertionSort
  congr 1
  funext a l
  exact insertOrdered_eq_orderedInsert le a l

theorem sortBy_perm (l : List α) : (sortBy le l).Perm l := by
  rw [sortBy_eq_insertionSort]
  exact List.perm_insertionSort _ l

@[simp] theorem mem_sortBy {a : α} {l : List α} : a ∈ sortBy le l ↔ a ∈ l :=
  (sortBy_perm le l).mem_iff

@[simp] theorem length_sortBy (l : List α) : (sortBy le l).length = l.length :=
  (sortBy_perm le l).length_eq

theorem pairwise_sortBy (trans : ∀ a b c, le a b = true → le b c = true → le a c = true)
    (total : ∀ a b, le a b = true ∨ le b a = true) (l : List α) :
    (sortBy le l).Pairwise fun a b => le a b = true := by
  have : Std.Total fun a b => le a b = true := ⟨total⟩
  have : IsTrans α fun a b => le a b = true := ⟨trans⟩
  rw [sortBy_eq_insertionSort]
  exact List.pairwise_insertionSort _ l

theorem sortBy_of_pairwise {l : List α} (h : l.Pairwise fun a b => le a b = true) :
    sortBy le l = l := by
  rw [sortBy_eq_insertionSort]
  exact h.insertionSort_eq

end SortBy

end LoadDispatch
