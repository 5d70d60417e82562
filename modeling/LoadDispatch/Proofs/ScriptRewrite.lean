import LoadDispatch.Proofs.ReadBack
import LoadDispatch.Run.Script

/-!
What the thread rewrite writes into a script: read back, the text holds the configuration in its
`thread_group` when the values fit 64 bits (`applyThreads_writtenIn`), and a script the rewrite
refuses does not read as an object.
-/
namespace LoadDispatch

namespace Text

theorem isBlank_of_isDigit {c : Char} (h : c.isDigit = true) : isBlank c = false := by
  simp only [Char.isDigit, Bool.and_eq_true, decide_eq_true_eq] at h
  obtain ⟨h1, h2⟩ := h
  rw [ge_iff_le, UInt32.le_iff_toNat_le] at h1
  rw [UInt32.le_iff_toNat_le] at h2
  have hd : 48 ≤ c.toNat ∧ c.toNat ≤ 57 := ⟨h1, h2⟩
  simp only [isBlank, Bool.or_eq_false_iff, Bool.and_eq_false_iff, decide_eq_false_iff_not,
    beq_eq_false_iff_ne]
  omega

/-- Text trims to nothing only when all of it is blank. -/
theorem blank_of_trimBlankList_eq_nil {cs : List Char} (h : trimBlankList cs = []) :
    ∀ c ∈ cs, isBlank c = true := by
  unfold trimBlankList at h
  rw [List.reverse_eq_nil_iff, List.dropWhile_eq_nil_iff] at h
  have hrest : cs.dropWhile isBlank = [] := by
    cases hd : cs.dropWhile isBlank with
    | nil => rfl
    | cons c r =>
      have hc := List.head_dropWhile_not isBlank (l := cs) (by simp [hd])
      simp only [hd, List.head_cons] at hc
      have hb := h c (by simp [hd])
      simp [hb] at hc
  exact List.dropWhile_eq_nil_iff.mp hrest

end Text

namespace Json

section Members

theorem get?_eq_getLast? (ms : List (String × Json)) (k : String) :
    (Json.obj ms).get? k = ((ms.filter (·.1 == k)).getLast?).map (·.2) := by
  rw [Json.get?, ← List.head?_filter, List.filter_reverse, List.head?_reverse]

theorem filter_setMember_self (ms : List (String × Json)) (key : String) (v : Json) :
    (setMember ms key v).filter (·.1 == key) = [(key, v)] := by
  unfold setMember
  split
  · rw [List.span_eq_takeWhile_dropWhile]
    simp only [List.filter_append, List.filter_cons, beq_self_eq_true, if_true, List.filter_filter]
    have hbefore : (ms.takeWhile (·.1 != key)).filter (·.1 == key) = [] :=
      List.filter_eq_nil_iff.mpr fun x hx => by simpa using List.mem_takeWhile_imp hx
    have hafter : (ms.dropWhile (·.1 != key)).filter (fun a => a.1 == key && a.1 != key) = [] :=
      List.filter_eq_nil_iff.mpr fun x _ => by simp
    rw [hbefore, hafter, List.nil_append]
  · rename_i hno
    have hnone : ms.filter (·.1 == key) = [] :=
      List.filter_eq_nil_iff.mpr fun x hx hk => hno (List.any_eq_true.mpr ⟨x, hx, hk⟩)
    simp [List.filter_append, hnone]

theorem filter_setMember_of_ne (ms : List (String × Json)) {key k : String} (v : Json)
    (hk : key ≠ k) : (setMember ms key v).filter (·.1 == k) = ms.filter (·.1 == k) := by
  have hne : (key == k) = false := by simpa using hk
  unfold setMember
  split
  · rw [List.span_eq_takeWhile_dropWhile]
    have hafter : (ms.dropWhile (·.1 != key)).filter (fun a => a.1 == k && a.1 != key) =
        (ms.dropWhile (·.1 != key)).filter (·.1 == k) :=
      List.filter_congr fun x _ => by
        by_cases hx : x.1 = k
        · simp [hx, Ne.symm hk]
        · simp [hx]
    simp only [List.filter_append, List.filter_cons, hne, Bool.false_eq_true, if_false,
      List.filter_filter]
    rw [hafter, ← List.filter_append, List.takeWhile_append_dropWhile]
  · simp [List.filter_append, hne]

theorem filter_eraseMember (ms : List (String × Json)) (key k : String) :
    (eraseMember ms key).filter (·.1 == k) = if key = k then [] else ms.filter (·.1 == k) := by
  unfold eraseMember
  rw [List.filter_filter]
  split
  · subst k
    exact List.filter_eq_nil_iff.mpr fun x _ => by simp
  · rename_i hk
    refine List.filter_congr fun x _ => ?_
    by_cases hx : x.1 = k
    · simp [hx, Ne.symm hk]
    · simp [hx]

@[simp] theorem get?_setMember_self (ms : List (String × Json)) (key : String) (v : Json) :
    (Json.obj (setMember ms key v)).get? key = some v := by
  rw [get?_eq_getLast?, filter_setMember_self]
  rfl

@[simp] theorem get?_setMember_of_ne (ms : List (String × Json)) {key k : String} (v : Json)
    (hk : key ≠ k) : (Json.obj (setMember ms key v)).get? k = (Json.obj ms).get? k := by
  rw [get?_eq_getLast?, get?_eq_getLast?, filter_setMember_of_ne ms v hk]

@[simp] theorem get?_eraseMember (ms : List (String × Json)) (key k : String) :
    (Json.obj (eraseMember ms key)).get? k = if key = k then none else (Json.obj ms).get? k := by
  rw [get?_eq_getLast?, get?_eq_getLast?, filter_eraseMember]
  split <;> rfl

end Members

section Blank

theorem mem_of_skipSpace {cs r : List Char} {c : Char} (h : skipSpace cs = c :: r) : c ∈ cs := by
  induction cs with
  | nil => cases h
  | cons d ds ih =>
    simp only [skipSpace] at h
    split at h
    · exact List.mem_cons_of_mem d (ih h)
    · obtain ⟨rfl, -⟩ := List.cons.inj h
      exact List.mem_cons_self

/-- A value is read from its first character after the spaces, and that character is not blank. -/
theorem readValue_ok_head {fuel room : Nat} {cs : List Char} {p : Json × List Char}
    (h : readValue fuel room cs = .ok p) : ∃ c r, skipSpace cs = c :: r ∧ Text.isBlank c = false := by
  cases fuel with
  | zero => simp [readValue] at h
  | succ fuel =>
    simp only [readValue] at h
    generalize skipSpace cs = ds at h ⊢
    split at h
    case h_1 => cases h
    case h_9 =>
      rename_i c rest _ _ _ _ _ _ _
      split at h
      · exact ⟨c, rest, rfl, Text.isBlank_of_isDigit ‹_›⟩
      · cases h
    all_goals exact ⟨_, _, rfl, by decide⟩

theorem trimBlank_ne_of_parse {s : String} {v : Json} (h : parse s = .ok v) :
    (Text.trimBlank s).isEmpty = false := by
  unfold parse at h
  obtain ⟨⟨x, rest⟩, h₁, -⟩ := bind_eq_ok.mp h
  obtain ⟨c, r, hs, hc⟩ := readValue_ok_head h₁
  rw [Bool.eq_false_iff]
  intro hempty
  rw [Text.trimBlank, String.isEmpty_iff, String.ofList_eq_empty_iff] at hempty
  have hb := Text.blank_of_trimBlankList_eq_nil hempty c (mem_of_skipSpace hs)
  rw [hc] at hb
  cases hb

end Blank

end Json

namespace ThreadConfig

def managedKeys : List String := "thread_count" :: "iteration_count" :: rampKeys ++ ["duration_secs"]

/-- The value a configuration gives a managed key of `thread_group`, none where it leaves the key
out. -/
def valueAt (t : ThreadConfig) : String → Option Nat
  | "thread_count" => some t.threadCount
  | "iteration_count" => some t.iterationCount
  | "ramp_up_threads" => t.ramp.map (·.rampUpThreads)
  | "ramp_down_threads" => t.ramp.map (·.rampDownThreads)
  | "ramp_up_secs" => t.ramp.map (·.rampUpSecs)
  | "ramp_down_secs" => t.ramp.map (·.rampDownSecs)
  | "duration_secs" => t.durationSecs
  | _ => none

/-- Every value of the configuration is an unsigned 64-bit integer. -/
def Fits (t : ThreadConfig) : Prop := ∀ k ∈ managedKeys, ∀ n ∈ t.valueAt k, n ≤ Number.maxU64

/-- A script document holds a configuration in its `thread_group`: each managed key has the
configuration's value, and is absent where the configuration has none. -/
def WrittenIn (t : ThreadConfig) (doc : List (String × Json)) : Prop :=
  ∃ group, (Json.obj doc).get? "thread_group" = some group ∧
    ∀ k ∈ managedKeys, group.get? k = (t.valueAt k).map Json.ofNat

theorem fits_iff (t : ThreadConfig) :
    t.Fits ↔ t.threadCount ≤ Number.maxU64 ∧ t.iterationCount ≤ Number.maxU64 ∧
      (∀ r ∈ t.ramp, r.rampUpThreads ≤ Number.maxU64 ∧ r.rampDownThreads ≤ Number.maxU64 ∧
        r.rampUpSecs ≤ Number.maxU64 ∧ r.rampDownSecs ≤ Number.maxU64) ∧
      ∀ d ∈ t.durationSecs, d ≤ Number.maxU64 := by
  rcases t with ⟨tc, ic, _ | ⟨u, d, us, ds⟩, _ | dur⟩ <;>
    simp [Fits, managedKeys, rampKeys, valueAt, and_assoc]

theorem get?_writeInto (t : ThreadConfig) (ms : List (String × Json)) {k : String}
    (hk : k ∈ managedKeys) :
    (Json.obj (t.writeInto ms)).get? k = (t.valueAt k).map Json.ofNat := by
  simp only [managedKeys, rampKeys, List.cons_append, List.nil_append, List.mem_cons,
    List.not_mem_nil, or_false] at hk
  rcases hk with rfl | rfl | rfl | rfl | rfl | rfl | rfl <;>
  · unfold writeInto
    rcases t with ⟨tc, ic, _ | ⟨u, d, us, ds⟩, _ | dur⟩ <;> simp [valueAt, rampKeys]

end ThreadConfig

/-- A rewritten script is the written form of the script's document with the configuration
written into its `thread_group`. -/
theorem applyThreads_ok {script out : String} {t : ThreadConfig}
    (h : applyThreads script t = .ok out) :
    ∃ doc, Json.parse script = .ok (.obj doc) ∧
      out = (Json.obj (Json.setMember doc "thread_group"
        (.obj (t.writeInto (threadGroupOf doc))))).render := by
  unfold applyThreads at h
  split at h
  · cases h
  split at h
  · cases h
  · rename_i doc hdoc
    cases h
    exact ⟨doc, hdoc, rfl⟩
  · cases h

/-- A script the rewrite refuses does not read as an object. -/
theorem parse_ne_obj_of_applyThreads {script : String} {t : ThreadConfig} {e : ScriptError}
    (h : applyThreads script t = .error e) (doc : List (String × Json)) :
    Json.parse script ≠ .ok (.obj doc) := by
  intro hdoc
  unfold applyThreads at h
  rw [Json.trimBlank_ne_of_parse hdoc, hdoc] at h
  cases h

/-- Read back, a rewritten script has a `thread_group` in which each managed key the
configuration leaves out is absent, and each one it sets to a value of 64 bits holds that value. -/
theorem applyThreads_readBack {script out : String} {t : ThreadConfig}
    (h : applyThreads script t = .ok out) {doc : List (String × Json)}
    (hdoc : Json.parse out = .ok (.obj doc)) :
    ∃ group, (Json.obj doc).get? "thread_group" = some group ∧ ∀ k ∈ ThreadConfig.managedKeys,
      (t.valueAt k = none → group.get? k = none) ∧
      ∀ n, t.valueAt k = some n → n ≤ Number.maxU64 → group.get? k = some (Json.ofNat n) := by
  obtain ⟨doc₀, -, rfl⟩ := applyThreads_ok h
  have hread := Json.parse_render _ hdoc
  obtain ⟨group, hgroup, hgroupRead⟩ :=
    (hread.get?_obj "thread_group").2 _ (Json.get?_setMember_self _ _ _)
  refine ⟨group, hgroup, fun k hk => ?_⟩
  obtain ⟨hnone, hsome⟩ := hgroupRead.get?_obj k
  rw [t.get?_writeInto _ hk] at hnone hsome
  refine ⟨fun hv => hnone (by rw [hv]; rfl), fun n hv hn => ?_⟩
  obtain ⟨v, hv', hvRead⟩ := hsome _ (by rw [hv]; rfl)
  rw [hv', hvRead.nat_eq hn]
  rfl

/-- Read back, a rewritten script holds the configuration, as long as its values fit 64 bits. -/
theorem applyThreads_writtenIn {script out : String} {t : ThreadConfig} (hfit : t.Fits)
    (h : applyThreads script t = .ok out) {doc : List (String × Json)}
    (hdoc : Json.parse out = .ok (.obj doc)) : t.WrittenIn doc := by
  obtain ⟨group, hgroup, hkeys⟩ := applyThreads_readBack h hdoc
  refine ⟨group, hgroup, fun k hk => ?_⟩
  cases hv : t.valueAt k with
  | none => exact (hkeys k hk).1 hv
  | some n => exact (hkeys k hk).2 n hv (hfit k hk n hv)

end LoadDispatch
