import LoadDispatch.Proofs.ExactReadBack
import LoadDispatch.Proofs.ScriptRewrite

/-!
The algebra of writing a thread configuration into a script: why a script is refused, what a
rewritten script reads back as (`Overrides`), and that writing one configuration after another is
writing the last alone. Both laws need the script's numbers to read back; a number that does not
drifts each time the script is written.
-/
namespace LoadDispatch

namespace Json

section Members

variable {P : String × Json → Prop} {ms : List (String × Json)}

theorem mem_setMember {m : String × Json} {key : String} {v : Json}
    (hm : m ∈ setMember ms key v) : m ∈ ms ∨ m = (key, v) := by
  unfold setMember at hm
  split at hm
  · rw [List.span_eq_takeWhile_dropWhile] at hm
    rcases List.mem_append.mp hm with hm | hm
    · exact .inl ((List.takeWhile_sublist _).subset hm)
    · rcases List.mem_cons.mp hm with rfl | hm
      · exact .inr rfl
      · exact .inl ((List.dropWhile_sublist _).subset (List.mem_filter.mp hm).1)
  · rcases List.mem_append.mp hm with hm | hm
    · exact .inl hm
    · exact .inr (List.mem_singleton.mp hm)

theorem forall_mem_setMember (h : ∀ m ∈ ms, P m) {key : String} {v : Json} (hkv : P (key, v)) :
    ∀ m ∈ setMember ms key v, P m := fun m hm => by
  rcases mem_setMember hm with hm | rfl
  · exact h m hm
  · exact hkv

theorem forall_mem_eraseMember (h : ∀ m ∈ ms, P m) (key : String) :
    ∀ m ∈ eraseMember ms key, P m :=
  fun m hm => h m (List.mem_filter.mp hm).1

theorem mem_of_get? {k : String} {v : Json} (h : (Json.obj ms).get? k = some v) :
    ∃ m ∈ ms, m.2 = v := by
  simp only [Json.get?, Option.map_eq_some_iff] at h
  obtain ⟨m, hm, rfl⟩ := h
  exact ⟨m, List.mem_reverse.mp (List.mem_of_find?_eq_some hm), rfl⟩

end Members

theorem exists_obj_of_normal_eq {v : Json} {ms : List (String × Json)} (h : normal v = .obj ms) :
    ∃ ms', v = .obj ms' := by
  cases v <;> simp [normal] at h
  exact ⟨_, rfl⟩

theorem exists_obj_of_map_normal {x x' : Option Json} (h : x.map normal = x'.map normal)
    {g : List (String × Json)} (hx : x = some (.obj g)) :
    ∃ g', x' = some (.obj g') ∧ normal (.obj g) = normal (.obj g') := by
  subst hx
  cases x' with
  | none => cases h
  | some y =>
    have hy : normal (.obj g) = normal y := Option.some.inj h
    obtain ⟨g', rfl⟩ := exists_obj_of_normal_eq (hy.symm.trans (normal_obj g))
    exact ⟨g', rfl, hy⟩

end Json

open Json

section Group

variable {doc : List (String × Json)}

theorem threadGroupOf_of_get? {g : List (String × Json)}
    (h : (Json.obj doc).get? "thread_group" = some (.obj g)) : threadGroupOf doc = g := by
  unfold threadGroupOf
  rw [h]

theorem threadGroupOf_of_not_obj (h : ∀ g, (Json.obj doc).get? "thread_group" ≠ some (.obj g)) :
    threadGroupOf doc = [] := by
  unfold threadGroupOf
  split
  · exact absurd ‹_› (h _)
  · rfl

theorem mem_threadGroupOf {m : String × Json} (hm : m ∈ threadGroupOf doc) :
    ∃ n ∈ doc, ∃ g, n.2 = .obj g ∧ m ∈ g := by
  unfold threadGroupOf at hm
  split at hm
  · obtain ⟨n, hn, heq⟩ := mem_of_get? ‹_›
    exact ⟨n, hn, _, heq, hm⟩
  · cases hm

/-- Documents whose `thread_group` agrees in normal form have thread groups that agree in normal
form; a missing group and a group that is not an object count as empty. -/
theorem normal_threadGroupOf_congr {doc' : List (String × Json)}
    (h : ((Json.obj doc).get? "thread_group").map normal =
      ((Json.obj doc').get? "thread_group").map normal) :
    normal (.obj (threadGroupOf doc)) = normal (.obj (threadGroupOf doc')) := by
  by_cases hg : ∃ g, (Json.obj doc).get? "thread_group" = some (.obj g)
  · obtain ⟨g, hg⟩ := hg
    obtain ⟨g', hg', hgg'⟩ := exists_obj_of_map_normal h hg
    rw [threadGroupOf_of_get? hg, threadGroupOf_of_get? hg', hgg']
  · -- neither document has an object there
    have hg' : ∀ g', (Json.obj doc').get? "thread_group" ≠ some (.obj g') := fun g' hg' =>
      have ⟨g, hg'', _⟩ := exists_obj_of_map_normal h.symm hg'
      hg ⟨g, hg''⟩
    rw [threadGroupOf_of_not_obj fun g hg'' => hg ⟨g, hg''⟩, threadGroupOf_of_not_obj hg']

end Group

namespace ThreadConfig

variable (t : ThreadConfig)

theorem get?_writeInto_of_not_mem (ms : List (String × Json)) {k : String}
    (hk : k ∉ managedKeys) : (Json.obj (t.writeInto ms)).get? k = (Json.obj ms).get? k := by
  simp only [managedKeys, rampKeys, List.cons_append, List.nil_append, List.mem_cons,
    List.not_mem_nil, or_false, not_or] at hk
  obtain ⟨h₁, h₂, h₃, h₄, h₅, h₆, h₇⟩ := hk
  unfold writeInto
  rcases t with ⟨tc, ic, _ | ⟨u, d, us, ds⟩, _ | dur⟩ <;>
    simp [rampKeys, Ne.symm h₁, Ne.symm h₂, Ne.symm h₃, Ne.symm h₄, Ne.symm h₅, Ne.symm h₆,
      Ne.symm h₇]

theorem mem_writeInto (ms : List (String × Json)) :
    ∀ m ∈ t.writeInto ms, m ∈ ms ∨
      m.1 ∈ managedKeys ∧ ∃ n, t.valueAt m.1 = some n ∧ m.2 = Json.ofNat n := by
  unfold writeInto
  rcases t with ⟨tc, ic, _ | ⟨u, d, us, ds⟩, _ | dur⟩ <;>
    simp only [rampKeys, List.foldl_cons, List.foldl_nil] <;>
    repeat (first | apply forall_mem_setMember | apply forall_mem_eraseMember)
  all_goals first
    | exact fun m hm => .inl hm
    | exact .inr ⟨by simp [managedKeys, rampKeys], _, rfl, rfl⟩

/-- Writing one configuration over another is writing the second alone, key by key. -/
theorem get?_writeInto_writeInto (t₁ : ThreadConfig) (ms : List (String × Json)) (k : String) :
    (Json.obj (t.writeInto (t₁.writeInto ms))).get? k = (Json.obj (t.writeInto ms)).get? k := by
  by_cases hk : k ∈ managedKeys
  · rw [get?_writeInto _ _ hk, get?_writeInto _ _ hk]
  · rw [get?_writeInto_of_not_mem _ _ hk, get?_writeInto_of_not_mem _ _ hk,
      get?_writeInto_of_not_mem _ _ hk]

theorem normal_writeInto_congr {g g' : List (String × Json)}
    (h : normal (.obj g) = normal (.obj g')) :
    normal (.obj (t.writeInto g)) = normal (.obj (t.writeInto g')) := by
  refine normal_obj_eq fun k => ?_
  by_cases hk : k ∈ managedKeys
  · rw [get?_writeInto _ _ hk, get?_writeInto _ _ hk]
  · rw [get?_writeInto_of_not_mem _ _ hk, get?_writeInto_of_not_mem _ _ hk, ← get?_normal,
      ← get?_normal, h]

/-- A script document with the configuration written into its `thread_group`. -/
def rewriteDoc (doc : List (String × Json)) : List (String × Json) :=
  setMember doc "thread_group" (.obj (t.writeInto (threadGroupOf doc)))

section Rewrite

variable {doc : List (String × Json)}

@[simp] theorem get?_rewriteDoc_self :
    (Json.obj (t.rewriteDoc doc)).get? "thread_group" =
      some (.obj (t.writeInto (threadGroupOf doc))) :=
  get?_setMember_self _ _ _

@[simp] theorem get?_rewriteDoc_of_ne {k : String} (hk : k ≠ "thread_group") :
    (Json.obj (t.rewriteDoc doc)).get? k = (Json.obj doc).get? k :=
  get?_setMember_of_ne _ _ (Ne.symm hk)

theorem threadGroupOf_rewriteDoc : threadGroupOf (t.rewriteDoc doc) = t.writeInto (threadGroupOf doc) :=
  threadGroupOf_of_get? (t.get?_rewriteDoc_self)

theorem normal_rewriteDoc_rewriteDoc (t₁ : ThreadConfig) :
    normal (.obj (t.rewriteDoc (t₁.rewriteDoc doc))) = normal (.obj (t.rewriteDoc doc)) := by
  refine normal_obj_eq fun k => ?_
  by_cases hk : k = "thread_group"
  · subst hk
    rw [get?_rewriteDoc_self, get?_rewriteDoc_self, threadGroupOf_rewriteDoc, Option.map_some,
      Option.map_some]
    exact congrArg some (normal_obj_eq fun k => by rw [get?_writeInto_writeInto])
  · rw [get?_rewriteDoc_of_ne _ hk, get?_rewriteDoc_of_ne _ hk, get?_rewriteDoc_of_ne _ hk]

/-- Rewriting sees a document only through its normal form. -/
theorem normal_rewriteDoc_congr {doc' : List (String × Json)}
    (h : normal (.obj doc) = normal (.obj doc')) :
    normal (.obj (t.rewriteDoc doc)) = normal (.obj (t.rewriteDoc doc')) := by
  have hget : ∀ k, ((Json.obj doc).get? k).map normal = ((Json.obj doc').get? k).map normal :=
    fun k => by rw [← get?_normal, ← get?_normal, h]
  refine normal_obj_eq fun k => ?_
  by_cases hk : k = "thread_group"
  · subst hk
    rw [get?_rewriteDoc_self, get?_rewriteDoc_self, Option.map_some, Option.map_some,
      t.normal_writeInto_congr (normal_threadGroupOf_congr (hget _))]
  · rw [get?_rewriteDoc_of_ne _ hk, get?_rewriteDoc_of_ne _ hk, hget]

theorem mem_rewriteDoc {m : String × Json} (hm : m ∈ t.rewriteDoc doc) :
    m ∈ doc ∨ m = ("thread_group", .obj (t.writeInto (threadGroupOf doc))) :=
  mem_setMember hm

variable {t}

theorem numbersReadBack_rewriteDoc (hfit : t.Fits) (hnum : numbersReadBack (.obj doc) = true) :
    numbersReadBack (.obj (t.rewriteDoc doc)) = true := by
  simp only [numbersReadBack_obj, List.all_eq_true] at hnum ⊢
  intro m hm
  rcases t.mem_rewriteDoc hm with hm | rfl
  · exact hnum m hm
  · simp only [numbersReadBack_obj, List.all_eq_true]
    intro m' hm'
    rcases t.mem_writeInto _ m' hm' with hm' | ⟨hk, n, hn, hm'⟩
    · -- a member of the old group: that group is the value of a member of the document
      obtain ⟨n, hn, g, hng, hm'g⟩ := mem_threadGroupOf hm'
      have hg := hnum n hn
      rw [hng, numbersReadBack_obj, List.all_eq_true] at hg
      exact hg m' hm'g
    · rw [hm', Json.ofNat, numbersReadBack_num]
      exact readsBack_nat (hfit _ hk n hn)

variable (t)

theorem depth_rewriteDoc_le (doc : List (String × Json)) :
    depth (.obj (t.rewriteDoc doc)) ≤ max (depth (.obj doc)) 2 := by
  have hdoc : ∀ m ∈ doc, depth m.2 ≤ depthMembers doc := depthMembers_le_iff.mp (Nat.le_refl _)
  have hgroup : depthMembers (t.writeInto (threadGroupOf doc)) ≤ depthMembers doc - 1 := by
    refine depthMembers_le_iff.mpr fun m hm => ?_
    rcases t.mem_writeInto _ m hm with hm | ⟨-, n, -, hm⟩
    · obtain ⟨n, hn, g, hng, hmg⟩ := mem_threadGroupOf hm
      have hlt := depth_lt_of_mem_obj hmg
      rw [← hng] at hlt
      have := hdoc n hn
      omega
    · rw [hm]
      exact Nat.zero_le _
  have hmembers : depthMembers (t.rewriteDoc doc) ≤ max (depthMembers doc) 1 := by
    refine depthMembers_le_iff.mpr fun m hm => ?_
    rcases t.mem_rewriteDoc hm with hm | rfl
    · exact le_max_of_le_left (hdoc m hm)
    · simp only [depth]
      omega
  simp only [depth]
  omega

end Rewrite

theorem applyThreads_of_parse {s : String} {doc : List (String × Json)}
    (h : parse s = .ok (.obj doc)) : applyThreads s t = .ok (render (.obj (t.rewriteDoc doc))) := by
  unfold applyThreads
  rw [trimBlank_ne_of_parse h, h]
  rfl

/-- Why a script is refused: blank first, then not JSON, then not an object. -/
theorem applyThreads_error_iff (s : String) (e : ScriptError) :
    applyThreads s t = .error e ↔
      (Text.trimBlank s).isEmpty = true ∧ e = .empty ∨
      (Text.trimBlank s).isEmpty = false ∧ (∃ err, parse s = .error err ∧ e = .parse err.message) ∨
      (∃ v, parse s = .ok v ∧ v.members? = none) ∧ e = .notAnObject := by
  unfold applyThreads
  cases hb : (Text.trimBlank s).isEmpty
  · -- a script with a character that is not blank is read
    cases hp : parse s with
    | error err => simp [eq_comm]
    | ok v => cases v <;> simp [members?, eq_comm]
  · -- a blank script does not read
    have hp : ∀ v, parse s ≠ .ok v := fun v h => by
      rw [trimBlank_ne_of_parse h] at hb
      cases hb
    rw [if_pos rfl]
    constructor
    · intro h
      cases h
      exact .inl ⟨rfl, rfl⟩
    · rintro (⟨-, rfl⟩ | ⟨h, -⟩ | ⟨⟨v, hv, -⟩, -⟩)
      · rfl
      · cases h
      · exact absurd hv (hp v)

theorem applyThreads_eq_empty_iff (s : String) :
    applyThreads s t = .error .empty ↔ (Text.trimBlank s).isEmpty = true := by
  rw [applyThreads_error_iff]
  simp

theorem exists_applyThreads_eq_parse_iff (s : String) :
    (∃ d, applyThreads s t = .error (.parse d)) ↔
      (Text.trimBlank s).isEmpty = false ∧ ∃ err, parse s = .error err := by
  simp only [applyThreads_error_iff]
  constructor
  · rintro ⟨d, ⟨-, h⟩ | ⟨hb, err, hp, -⟩ | ⟨-, h⟩⟩
    · cases h
    · exact ⟨hb, err, hp⟩
    · cases h
  · rintro ⟨hb, err, hp⟩
    exact ⟨_, .inr (.inl ⟨hb, err, hp, rfl⟩)⟩

theorem applyThreads_eq_notAnObject_iff (s : String) :
    applyThreads s t = .error .notAnObject ↔ ∃ v, parse s = .ok v ∧ v.members? = none := by
  rw [applyThreads_error_iff]
  simp

/-- A value is a script document with the configuration written into its `thread_group`, in normal
form: every other member is the document's, and each managed key of the group has the
configuration's value or is absent where it has none. -/
def Overrides (doc : List (String × Json)) (v : Json) : Prop :=
  normal v = v ∧
  (∀ k, k ≠ "thread_group" → v.get? k = ((Json.obj doc).get? k).map normal) ∧
  ∃ group, v.get? "thread_group" = some (.obj group) ∧
    (∀ k ∈ managedKeys, (Json.obj group).get? k = (t.valueAt k).map Json.ofNat) ∧
    ∀ k ∉ managedKeys, (Json.obj group).get? k = ((Json.obj (threadGroupOf doc)).get? k).map normal

theorem overrides_normal_rewriteDoc (doc : List (String × Json)) :
    t.Overrides doc (normal (.obj (t.rewriteDoc doc))) := by
  refine ⟨normal_normal _, fun k hk => ?_, ?_⟩
  · rw [get?_normal, get?_rewriteDoc_of_ne _ hk]
  · refine ⟨_, by rw [get?_normal, get?_rewriteDoc_self, Option.map_some, normal_obj],
      fun k hk => ?_, fun k hk => ?_⟩
    · rw [get?_keyOrder, get?_map_values, get?_writeInto _ _ hk]
      cases t.valueAt k <;> rfl
    · rw [get?_keyOrder, get?_map_values, get?_writeInto_of_not_mem _ _ hk]

theorem exists_obj_of_get? {v x : Json} {k : String} (h : v.get? k = some x) :
    ∃ ms, v = .obj ms := by
  cases v <;> simp [Json.get?] at h ⊢

/-- `Overrides` pins the value down: two values it describes are equal. -/
theorem Overrides.unique {doc : List (String × Json)} {v w : Json} (hv : t.Overrides doc v)
    (hw : t.Overrides doc w) : v = w := by
  obtain ⟨hnv, hvk, g, hvg, hvm, hvu⟩ := hv
  obtain ⟨hnw, hwk, g', hwg, hwm, hwu⟩ := hw
  obtain ⟨ms, rfl⟩ := exists_obj_of_get? hvg
  obtain ⟨ms', rfl⟩ := exists_obj_of_get? hwg
  have hgroup : normal (.obj g) = normal (.obj g') := normal_obj_eq fun k => by
    by_cases hk : k ∈ managedKeys
    · rw [hvm k hk, hwm k hk]
    · rw [hvu k hk, hwu k hk]
  calc Json.obj ms = normal (.obj ms) := hnv.symm
    _ = normal (.obj ms') := normal_obj_eq fun k => by
      by_cases hk : k = "thread_group"
      · subst hk
        rw [hvg, hwg, Option.map_some, Option.map_some, hgroup]
      · rw [hvk k hk, hwk k hk]
    _ = .obj ms' := hnw

theorem parse_render_rewriteDoc {t : ThreadConfig} (hfit : t.Fits) {s : String}
    {doc : List (String × Json)} (hdoc : parse s = .ok (.obj doc))
    (hnum : numbersReadBack (.obj doc) = true) :
    parse (render (.obj (t.rewriteDoc doc))) = .ok (normal (.obj (t.rewriteDoc doc))) := by
  have hdepth : depth (.obj (t.rewriteDoc doc)) < 128 :=
    lt_of_le_of_lt (t.depth_rewriteDoc_le doc) (max_lt (depth_lt_of_parse hdoc) (by decide))
  exact parse_render_normal (numbersReadBack_rewriteDoc hfit hnum) hdepth

/-- A script that reads as an object whose numbers read back is rewritten into a script that
reads back as `Overrides` describes. -/
theorem parse_applyThreads {t : ThreadConfig} (hfit : t.Fits) {s : String}
    {doc : List (String × Json)} (hdoc : parse s = .ok (.obj doc))
    (hnum : numbersReadBack (.obj doc) = true) :
    ∃ out v, applyThreads s t = .ok out ∧ parse out = .ok v ∧ t.Overrides doc v :=
  ⟨_, _, t.applyThreads_of_parse hdoc, parse_render_rewriteDoc hfit hdoc hnum,
    t.overrides_normal_rewriteDoc doc⟩

/-- Writing one configuration and then another is writing the second alone, when the script's
numbers read back and the first configuration fits 64 bits. -/
theorem applyThreads_applyThreads {t₁ : ThreadConfig} (t₂ : ThreadConfig) (hfit : t₁.Fits)
    {s s₁ : String} (hnum : ∀ v, parse s = .ok v → numbersReadBack v = true)
    (h : applyThreads s t₁ = .ok s₁) : applyThreads s₁ t₂ = applyThreads s t₂ := by
  obtain ⟨doc, hdoc, -⟩ := applyThreads_ok h
  rw [t₁.applyThreads_of_parse hdoc, Except.ok.injEq] at h
  subst h
  have hdoc₁ := parse_render_rewriteDoc hfit hdoc (hnum _ hdoc)
  rw [normal_obj] at hdoc₁
  rw [t₂.applyThreads_of_parse hdoc₁, t₂.applyThreads_of_parse hdoc]
  refine congrArg Except.ok ?_
  calc render (.obj (t₂.rewriteDoc (keyOrder _)))
      = render (normal (.obj (t₂.rewriteDoc (keyOrder _)))) := (render_normal _).symm
    _ = render (normal (.obj (t₂.rewriteDoc (t₁.rewriteDoc doc)))) :=
      congrArg render (t₂.normal_rewriteDoc_congr (by rw [← normal_obj, normal_normal]))
    _ = render (normal (.obj (t₂.rewriteDoc doc))) := by rw [normal_rewriteDoc_rewriteDoc]
    _ = render (.obj (t₂.rewriteDoc doc)) := render_normal _

end ThreadConfig

open ThreadConfig

/-- Writing thread configurations into scripts: a script is refused as empty, not JSON or not an
object exactly as `applyThreads_error_iff` says; when its numbers read back and the configuration
fits 64 bits, the rewritten script reads back as `Overrides` describes, and writing any
configuration over it is writing that one over the script. -/
theorem thread_override_laws (s : String) (t t₂ : ThreadConfig) :
    (applyThreads s t = .error .empty ↔ (Text.trimBlank s).isEmpty = true) ∧
    ((∃ d, applyThreads s t = .error (.parse d)) ↔
      (Text.trimBlank s).isEmpty = false ∧ ∃ err, parse s = .error err) ∧
    (applyThreads s t = .error .notAnObject ↔ ∃ v, parse s = .ok v ∧ v.members? = none) ∧
    (t.Fits → (∀ v, parse s = .ok v → numbersReadBack v = true) →
      (∀ doc, parse s = .ok (.obj doc) →
        ∃ out v, applyThreads s t = .ok out ∧ parse out = .ok v ∧ t.Overrides doc v) ∧
      ∀ s₁, applyThreads s t = .ok s₁ → applyThreads s₁ t₂ = applyThreads s t₂) :=
  ⟨t.applyThreads_eq_empty_iff s, t.exists_applyThreads_eq_parse_iff s,
    t.applyThreads_eq_notAnObject_iff s, fun hfit hnum =>
    ⟨fun _ hdoc => parse_applyThreads hfit hdoc (hnum _ hdoc),
      fun _ h => applyThreads_applyThreads t₂ hfit hnum h⟩⟩

/-- A script with a ramp group and a float, written with a ramp and a duration and then with
neither: the second write alone gives the same script. -/
theorem rampedScript_rewritten_as_last_config :
    ThreadConfig.Fits ⟨4, 10, some ⟨1, 1, 2, 2⟩, some 60⟩ ∧
    applyThreads "\x7b\"thread_group\":\x7b\"ramp_up_secs\":5,\"note\":\"keep\"\x7d,\"name\":\"a\",\"weight\":0.5\x7d"
      ⟨4, 10, some ⟨1, 1, 2, 2⟩, some 60⟩ =
      .ok "\x7b\"name\":\"a\",\"thread_group\":\x7b\"duration_secs\":60,\"iteration_count\":10,\"note\":\"keep\",\"ramp_down_secs\":2,\"ramp_down_threads\":1,\"ramp_up_secs\":2,\"ramp_up_threads\":1,\"thread_count\":4\x7d,\"weight\":0.5\x7d" ∧
    applyThreads "\x7b\"name\":\"a\",\"thread_group\":\x7b\"duration_secs\":60,\"iteration_count\":10,\"note\":\"keep\",\"ramp_down_secs\":2,\"ramp_down_threads\":1,\"ramp_up_secs\":2,\"ramp_up_threads\":1,\"thread_count\":4\x7d,\"weight\":0.5\x7d"
      ⟨2, 3, none, none⟩ =
    applyThreads "\x7b\"thread_group\":\x7b\"ramp_up_secs\":5,\"note\":\"keep\"\x7d,\"name\":\"a\",\"weight\":0.5\x7d"
      ⟨2, 3, none, none⟩ := by
  have hfit : ThreadConfig.Fits ⟨4, 10, some ⟨1, 1, 2, 2⟩, some 60⟩ := by
    unfold ThreadConfig.Fits
    decide
  have hrun : applyThreads "\x7b\"thread_group\":\x7b\"ramp_up_secs\":5,\"note\":\"keep\"\x7d,\"name\":\"a\",\"weight\":0.5\x7d"
      ⟨4, 10, some ⟨1, 1, 2, 2⟩, some 60⟩ =
      .ok "\x7b\"name\":\"a\",\"thread_group\":\x7b\"duration_secs\":60,\"iteration_count\":10,\"note\":\"keep\",\"ramp_down_secs\":2,\"ramp_down_threads\":1,\"ramp_up_secs\":2,\"ramp_up_threads\":1,\"thread_count\":4\x7d,\"weight\":0.5\x7d" := by
    decide +kernel
  have hnum : ∀ v, parse "\x7b\"thread_group\":\x7b\"ramp_up_secs\":5,\"note\":\"keep\"\x7d,\"name\":\"a\",\"weight\":0.5\x7d" = .ok v →
      numbersReadBack v = true := fun v hv => by
    have hall : ((parse "\x7b\"thread_group\":\x7b\"ramp_up_secs\":5,\"note\":\"keep\"\x7d,\"name\":\"a\",\"weight\":0.5\x7d").toOption.all
        numbersReadBack) = true := by decide +kernel
    rw [hv] at hall
    exact hall
  exact ⟨hfit, hrun, ((thread_override_laws _ _ _).2.2.2 hfit hnum).2 _ hrun⟩

/-- The decimal 37e-23 reads as the double written 3.7000000000000005e-22, which reads back as
another double, so a script holding it changes when it is rewritten. -/
theorem tinyFloat_drifts_when_rewritten :
    applyThreads "\x7b\"x\":37e-23\x7d" ⟨1, 1, none, none⟩ =
      .ok "\x7b\"thread_group\":\x7b\"iteration_count\":1,\"thread_count\":1\x7d,\"x\":3.7000000000000005e-22\x7d" ∧
    applyThreads "\x7b\"thread_group\":\x7b\"iteration_count\":1,\"thread_count\":1\x7d,\"x\":3.7000000000000005e-22\x7d"
      ⟨1, 1, none, none⟩ =
      .ok "\x7b\"thread_group\":\x7b\"iteration_count\":1,\"thread_count\":1\x7d,\"x\":3.700000000000001e-22\x7d" := by
  decide +kernel

end LoadDispatch
