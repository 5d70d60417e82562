import LoadDispatch.Proofs.ReadBack

/-!
The normal form of a JSON value: every object's members in key order, the last one of each key kept.
Objects whose lookups agree up to normal form share one normal form, and the writer writes a value
as it writes its normal form.
-/
namespace LoadDispatch.Json

section Order

variable {α : Type}

/-- Members in strict key order. -/
def StrictKeys (ms : List (String × α)) : Prop := ms.Pairwise fun a b => a.1 < b.1

theorem strictKeys_keyOrder (ms : List (String × α)) : StrictKeys (keyOrder ms) :=
  pairwise_firstOfRuns (List.pairwise_insertionSort keyLE _)

theorem mem_of_mem_keyOrder {ms : List (String × α)} {m : String × α} (h : m ∈ keyOrder ms) :
    m ∈ ms :=
  List.mem_reverse.mp ((List.perm_insertionSort keyLE _).subset (mem_firstOfRuns h))

theorem find?_of_mem {ms : List (String × α)} (h : StrictKeys ms) {m : String × α} (hm : m ∈ ms) :
    ms.find? (·.1 == m.1) = some m := by
  induction ms with
  | nil => cases hm
  | cons n ns ih =>
    obtain ⟨hn, hns⟩ := List.pairwise_cons.mp h
    rcases List.mem_cons.mp hm with rfl | hm'
    · simp
    · -- a later member has a greater key than the head
      have hne : (n.1 == m.1) = false := by
        have := hn m hm'
        simpa using ne_of_lt this
      rw [List.find?_cons, hne]
      exact ih hns hm'

/-- Members in strict key order are fixed by what looking each key up finds. -/
theorem eq_of_sorted_of_find? {ms ms' : List (String × α)} (h : StrictKeys ms)
    (h' : StrictKeys ms') (hfind : ∀ k, ms.find? (·.1 == k) = ms'.find? (·.1 == k)) : ms = ms' := by
  have hmem : ∀ m, m ∈ ms ↔ m ∈ ms' := by
    intro m
    have hm := hfind m.1
    constructor
    · intro hin
      rw [find?_of_mem h hin] at hm
      exact List.mem_of_find?_eq_some hm.symm
    · intro hin
      rw [find?_of_mem h' hin] at hm
      exact List.mem_of_find?_eq_some hm
  have hnodup : ∀ {l : List (String × α)}, StrictKeys l → l.Nodup := fun hl =>
    hl.imp fun hab heq => by
      subst heq
      exact lt_irrefl _ hab
  have hperm : ms.Perm ms' := (List.perm_ext_iff_of_nodup (hnodup h) (hnodup h')).mpr hmem
  exact hperm.eq_of_pairwise (fun _ _ _ _ hab hba => absurd (lt_trans hab hba) (lt_irrefl _)) h h'

theorem keyOrder_eq_of_find? {ms ms' : List (String × α)}
    (h : ∀ k, ms.reverse.find? (·.1 == k) = ms'.reverse.find? (·.1 == k)) :
    keyOrder ms = keyOrder ms' := by
  refine eq_of_sorted_of_find? (strictKeys_keyOrder ms) (strictKeys_keyOrder ms') fun k => ?_
  rw [← find?_reverse_of_pairwise k (strictKeys_keyOrder ms), find?_reverse_keyOrder, h,
    ← find?_reverse_keyOrder k ms', find?_reverse_of_pairwise k (strictKeys_keyOrder ms')]

theorem keyOrder_keyOrder (ms : List (String × α)) : keyOrder (keyOrder ms) = keyOrder ms :=
  keyOrder_eq_of_find? fun k => find?_reverse_keyOrder k ms

end Order

section Lookup

theorem get?_map_values (f : Json → Json) (ms : List (String × Json)) (k : String) :
    (Json.obj (ms.map fun m => (m.1, f m.2))).get? k = ((Json.obj ms).get? k).map f := by
  simp only [Json.get?, ← List.map_reverse, List.find?_map, Option.map_map]
  rfl

/-- Objects whose lookups agree have the same members in key order. -/
theorem keyOrder_eq_of_get? {ms ms' : List (String × Json)}
    (h : ∀ k, (Json.obj ms).get? k = (Json.obj ms').get? k) : keyOrder ms = keyOrder ms' := by
  refine keyOrder_eq_of_find? fun k => ?_
  have hk := h k
  simp only [Json.get?] at hk
  rcases h₁ : ms.reverse.find? (·.1 == k) with _ | ⟨k₁, v₁⟩ <;>
    rcases h₂ : ms'.reverse.find? (·.1 == k) with _ | ⟨k₂, v₂⟩ <;>
    rw [h₁, h₂] at hk <;> simp only [Option.map_none, Option.map_some, reduceCtorEq,
      Option.some.injEq] at hk
  · rw [h₁, h₂]
  · have hk₁ : k₁ = k := by simpa using List.find?_some h₁
    have hk₂ : k₂ = k := by simpa using List.find?_some h₂
    rw [h₁, h₂, hk₁, hk₂, hk]

end Lookup

mutual

/-- A value in normal form: every object's members in key order, the last one of each key kept,
and every value inside in normal form. -/
def normal : Json → Json
  | .arr items => .arr (normalItems items)
  | .obj ms => .obj (keyOrder (normalMembers ms))
  | v => v

def normalItems : List Json → List Json
  | [] => []
  | i :: is => normal i :: normalItems is

def normalMembers : List (String × Json) → List (String × Json)
  | [] => []
  | (k, v) :: ms => (k, normal v) :: normalMembers ms

end

theorem normalItems_eq (items : List Json) : normalItems items = items.map normal := by
  induction items with
  | nil => rfl
  | cons i is ih => rw [normalItems, ih, List.map_cons]

theorem normalMembers_eq (ms : List (String × Json)) :
    normalMembers ms = ms.map fun m => (m.1, normal m.2) := by
  induction ms with
  | nil => rfl
  | cons m ms ih => rw [normalMembers, ih, List.map_cons]

@[simp] theorem normal_arr (items : List Json) : normal (.arr items) = .arr (items.map normal) := by
  rw [normal, normalItems_eq]

@[simp] theorem normal_obj (ms : List (String × Json)) :
    normal (.obj ms) = .obj (keyOrder (ms.map fun m => (m.1, normal m.2))) := by
  rw [normal, normalMembers_eq]

@[simp] theorem normal_num (x : Number) : normal (.num x) = .num x := rfl

/-- Looking a key up in the normal form finds the normal form of what the object finds. -/
theorem get?_normal (ms : List (String × Json)) (k : String) :
    (normal (.obj ms)).get? k = ((Json.obj ms).get? k).map normal := by
  rw [normal_obj, get?_keyOrder, get?_map_values]

/-- Objects whose lookups agree up to normal form have one normal form. -/
theorem normal_obj_eq {ms ms' : List (String × Json)}
    (h : ∀ k, ((Json.obj ms).get? k).map normal = ((Json.obj ms').get? k).map normal) :
    normal (.obj ms) = normal (.obj ms') := by
  rw [normal_obj, normal_obj]
  congr 1
  exact keyOrder_eq_of_get? fun k => by rw [get?_map_values, get?_map_values, h]

theorem normalMembers_keyOrder (ms : List (String × Json)) :
    normalMembers (keyOrder ms) = keyOrder (normalMembers ms) := by
  rw [normalMembers_eq, normalMembers_eq, keyOrder_map]

mutual

theorem normal_normal : ∀ v : Json, normal (normal v) = normal v
  | .null => rfl
  | .bool _ => rfl
  | .num _ => rfl
  | .str _ => rfl
  | .arr items => by rw [normal, normal, normalItems_normalItems items]
  | .obj ms => by
    rw [normal, normal, normalMembers_keyOrder, keyOrder_keyOrder,
      normalMembers_normalMembers ms]

theorem normalItems_normalItems :
    ∀ items : List Json, normalItems (normalItems items) = normalItems items
  | [] => rfl
  | i :: is => by rw [normalItems, normalItems, normal_normal i, normalItems_normalItems is]

theorem normalMembers_normalMembers :
    ∀ ms : List (String × Json), normalMembers (normalMembers ms) = normalMembers ms
  | [] => rfl
  | (k, v) :: ms => by
    rw [normalMembers, normalMembers, normal_normal v, normalMembers_normalMembers ms]

end

theorem render_obj_eq (ms : List (String × Json)) :
    render (.obj ms) = "\x7b" ++ commaJoin ((keyOrder (renderMembers ms)).map fun m =>
      quote m.1 ++ ":" ++ m.2) ++ "\x7d" := by
  rw [render, orderMembers_eq]

mutual

/-- A value is written as its normal form is. -/
theorem render_normal : ∀ v : Json, render (normal v) = render v
  | .null => rfl
  | .bool _ => rfl
  | .num _ => rfl
  | .str _ => rfl
  | .arr items => by rw [normal, render, render, renderItems_normalItems items]
  | .obj ms => by
    have hkeys : renderMembers (keyOrder (normalMembers ms)) = keyOrder (renderMembers ms) := by
      rw [renderMembers_eq, ← keyOrder_map, ← renderMembers_eq, renderMembers_normalMembers ms]
    rw [normal, render_obj_eq, render_obj_eq, hkeys, keyOrder_keyOrder]

theorem renderItems_normalItems :
    ∀ items : List Json, renderItems (normalItems items) = renderItems items
  | [] => rfl
  | i :: is => by rw [normalItems, renderItems, renderItems, render_normal i,
      renderItems_normalItems is]

theorem renderMembers_normalMembers :
    ∀ ms : List (String × Json), renderMembers (normalMembers ms) = renderMembers ms
  | [] => rfl
  | (k, v) :: ms => by rw [normalMembers, renderMembers, renderMembers, render_normal v,
      renderMembers_normalMembers ms]

end

end LoadDispatch.Json
