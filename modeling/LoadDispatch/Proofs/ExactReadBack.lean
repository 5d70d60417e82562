import LoadDispatch.Proofs.NormalForm

/-!
Reading back exactly. A value whose numbers read back, nested less deep than the reader allows,
parses from its written form to its normal form, by induction on the reader's fuel; and a parsed
document nests less deep than the reader allows.
-/
namespace LoadDispatch

/-- Whether a number's written form reads back as the number itself. -/
def Number.readsBack (x : Number) : Bool :=
  match Json.parse (Json.render (.num x)) with
  | .ok (.num y) => y == x
  | _ => false

namespace Json

section Numbers

theorem spanDigits_append_of_follows (cs : List Char) {rest : List Char}
    (hr : ∀ c r, rest = c :: r → c.isDigit = false) :
    spanDigits (cs ++ rest) = ((spanDigits cs).1, (spanDigits cs).2 ++ rest) := by
  induction cs with
  | nil => exact spanDigits_append (by simp) hr
  | cons c cs ih =>
    simp only [spanDigits, List.span_eq_takeWhile_dropWhile] at ih ⊢
    cases hc : c.isDigit
    · simp [hc]
    · simp only [List.cons_append, List.takeWhile_cons, List.dropWhile_cons, hc, if_true]
      simp only [Prod.mk.injEq] at ih
      rw [ih.1, ih.2]

theorem readIntDigits_append {cs ds r rest : List Char} (h : readIntDigits cs = .ok (ds, r))
    (hr : Follows rest) : readIntDigits (cs ++ rest) = .ok (ds, r ++ rest) := by
  cases cs with
  | nil => simp [readIntDigits] at h
  | cons d tl =>
    by_cases hd0 : d = '0'
    · -- a lone zero: what follows it is no digit, in the text or after it
      subst hd0
      cases tl with
      | nil =>
        simp only [readIntDigits, Except.ok.injEq, Prod.mk.injEq] at h
        obtain ⟨rfl, rfl⟩ := h
        cases rest with
        | nil => rfl
        | cons c rest' => simp [readIntDigits, hr.not_digit c rest' rfl]
      | cons e tl' =>
        cases he : e.isDigit
        · simp only [readIntDigits, he, Bool.false_eq_true, if_false, Except.ok.injEq,
            Prod.mk.injEq] at h
          obtain ⟨rfl, rfl⟩ := h
          simp [readIntDigits, he]
        · simp [readIntDigits, he] at h
    · rw [readIntDigits.eq_3 d tl hd0] at h
      rw [List.cons_append, readIntDigits.eq_3 d (tl ++ rest) hd0]
      cases hd : d.isDigit
      · simp [hd] at h
      · simp only [hd, if_true, Except.ok.injEq] at h
        rw [if_pos rfl, ← List.cons_append, spanDigits_append_of_follows _ hr.not_digit, h]

theorem readFraction_append {cs r rest : List Char} {f : Option (List Char)}
    (h : readFraction cs = .ok (f, r)) (hr : Follows rest) :
    readFraction (cs ++ rest) = .ok (f, r ++ rest) := by
  by_cases hp : ∃ tl, cs = '.' :: tl
  · -- a point and digits: the digits stop where they stopped
    obtain ⟨tl, rfl⟩ := hp
    rw [readFraction.eq_1] at h
    rw [List.cons_append, readFraction.eq_1, spanDigits_append_of_follows tl hr.not_digit]
    rcases hs : spanDigits tl with ⟨_ | ⟨d, ds⟩, r'⟩
    · rw [hs] at h
      rcases r' with _ | ⟨c, r'⟩ <;> cases h
    · rw [hs] at h
      cases h
      rfl
  · have hno : ∀ tl, cs = '.' :: tl → False := fun tl htl => hp ⟨tl, htl⟩
    rw [readFraction.eq_2 cs hno] at h
    cases h
    refine readFraction.eq_2 _ fun tl htl => ?_
    cases cs with
    | nil => rcases hr '.' tl htl with h | h | h <;> cases h
    | cons c cs' =>
      obtain ⟨rfl, -⟩ := List.cons.inj htl
      exact hno cs' rfl

theorem readExponent_append {cs rest : List Char} {x : Option (Bool × List Char)}
    (h : readExponent cs = .ok (x, [])) (hr : Follows rest) :
    readExponent (cs ++ rest) = .ok (x, rest) := by
  cases cs with
  | nil =>
    rw [readExponent.eq_4] at h
    cases h
    exact readExponent_of_follows hr
  | cons e tl =>
    cases he : (e == 'e' || e == 'E')
    · -- no exponent letter: the read stops before it, which leaves text
      rcases tl with _ | ⟨s, tl⟩
      · rw [readExponent.eq_3 e [] (by simp) (by simp), he] at h
        cases h
      · by_cases hs : s = '+' ∨ s = '-'
        · rcases hs with rfl | rfl
          · rw [readExponent.eq_1, he] at h
            cases h
          · rw [readExponent.eq_2, he] at h
            cases h
        · rw [readExponent.eq_3 e (s :: tl) (by simp; tauto) (by simp; tauto), he] at h
          cases h
    · -- the letter, its sign, then digits that the read takes to the end of the text
      rcases tl with _ | ⟨s, tl⟩
      · rw [readExponent.eq_3 e [] (by simp) (by simp), he] at h
        cases h
      · by_cases hs : s = '+' ∨ s = '-'
        · rcases hs with rfl | rfl
          · rw [readExponent.eq_1, he, if_pos rfl] at h
            rw [List.cons_append, List.cons_append, readExponent.eq_1, he, if_pos rfl,
              spanDigits_append_of_follows tl hr.not_digit]
            rcases hd : spanDigits tl with ⟨_ | ⟨d, ds⟩, r'⟩
            · rw [hd] at h
              rcases r' with _ | ⟨c, r'⟩ <;> cases h
            · rw [hd] at h
              cases h
              rfl
          · rw [readExponent.eq_2, he, if_pos rfl] at h
            rw [List.cons_append, List.cons_append, readExponent.eq_2, he, if_pos rfl,
              spanDigits_append_of_follows tl hr.not_digit]
            rcases hd : spanDigits tl with ⟨_ | ⟨d, ds⟩, r'⟩
            · rw [hd] at h
              rcases r' with _ | ⟨c, r'⟩ <;> cases h
            · rw [hd] at h
              cases h
              rfl
        · have hp : ∀ r, s :: tl = '+' :: r → False := by simp; tauto
          have hm : ∀ r, s :: tl = '-' :: r → False := by simp; tauto
          rw [readExponent.eq_3 e (s :: tl) hp hm, he, if_pos rfl] at h
          rw [List.cons_append, readExponent.eq_3 e (s :: tl ++ rest)
            (fun _ hr' => hs (.inl (List.cons.inj hr').1))
            (fun _ hr' => hs (.inr (List.cons.inj hr').1)), he, if_pos rfl,
            spanDigits_append_of_follows (s :: tl) hr.not_digit]
          rcases hd : spanDigits (s :: tl) with ⟨_ | ⟨d, ds⟩, r'⟩
          · rw [hd] at h
            rcases r' with _ | ⟨c, r'⟩ <;> cases h
          · rw [hd] at h
            cases h
            rfl

theorem readNumber_append {neg : Bool} {cs rest : List Char} {w : Json}
    (h : readNumber neg cs = .ok (w, [])) (hr : Follows rest) :
    readNumber neg (cs ++ rest) = .ok (w, rest) := by
  unfold readNumber at h ⊢
  obtain ⟨⟨ds, r₁⟩, h₁, h⟩ := bind_eq_ok.mp h
  obtain ⟨⟨f, r₂⟩, h₂, h⟩ := bind_eq_ok.mp h
  obtain ⟨⟨x, r₃⟩, h₃, h⟩ := bind_eq_ok.mp h
  obtain ⟨n, hn, h⟩ := bind_eq_ok.mp h
  cases h
  simp only [readIntDigits_append h₁ hr, readFraction_append h₂ hr, readExponent_append h₃ hr,
    bind, Except.bind, hn, pure, Except.pure]

theorem readValue_numeral_eq {t : List Char} (ht : Numeral t) :
    ∃ neg u, (∀ d ∈ u, isNumeralChar d = true) ∧
      ∀ fuel room rest, readValue (fuel + 1) room (t ++ rest) = readNumber neg (u ++ rest) := by
  rcases ht with ⟨c, cs, rfl, hc, hall⟩ | ⟨u, rfl, c, cs, rfl, hc, hall⟩
  · exact ⟨false, c :: cs, hall, fun fuel room rest => readValue_digit hc fuel room (cs ++ rest)⟩
  · exact ⟨true, c :: cs, hall, fun fuel room rest => readValue_minus fuel room (c :: cs ++ rest)⟩

theorem eq_nil_of_skipSpace {r : List Char} (hr : ∀ d ∈ r, isNumeralChar d = true)
    (h : skipSpace r = []) : r = [] := by
  cases r with
  | nil => rfl
  | cons d r' =>
    rw [skipSpace_of_not_space (isSpace_of_numeral (hr d List.mem_cons_self))] at h
    cases h

/-- A number whose written form reads back as itself is read back inside a document, up to its
end. -/
theorem readValue_num {x : Number} (hx : x.readsBack = true) {rest : List Char}
    (hr : Follows rest) (fuel room : Nat) :
    readValue (fuel + 1) room ((render (.num x)).toList ++ rest) = .ok (.num x, rest) := by
  have htext : (render (.num x)).toList = x.text.toList := rfl
  obtain ⟨neg, u, hu, hread⟩ := readValue_numeral_eq (text_numeral x)
  have hone : readNumber neg u = .ok (.num x, []) := by
    unfold Number.readsBack at hx
    split at hx
    · rename_i y hparse
      have hxy : x = y := (by simpa using hx : y = x).symm
      subst hxy
      unfold parse at hparse
      dsimp only at hparse
      obtain ⟨⟨v, r⟩, hv, hend⟩ := bind_eq_ok.mp hparse
      rw [show 2 * (render (.num x)).toList.length + 2 = 2 * (render (.num x)).toList.length + 1 + 1
        from rfl, htext, ← List.append_nil x.text.toList, hread, List.append_nil] at hv
      have hrest : ∀ d ∈ r, isNumeralChar d = true := by
        obtain ⟨p, hpr, -⟩ := readNumber_numeral hv
        intro d hd
        exact hu d (hpr ▸ List.mem_append_right p hd)
      dsimp only at hend
      split at hend
      · rename_i hskip
        cases hend
        rw [eq_nil_of_skipSpace hrest hskip] at hv
        exact hv
      · cases hend
    · cases hx
  rw [htext, hread, readNumber_append hone hr]

theorem digitChar_ne_zero : ∀ d, d < 10 → 0 < d → Nat.digitChar d ≠ '0' := by decide

theorem toDigits_head {n : Nat} (hn : 0 < n) :
    ∃ c cs, Nat.toDigits 10 n = c :: cs ∧ c ≠ '0' := by
  induction n using Nat.strongRecOn with
  | ind n ih =>
    by_cases h10 : n < 10
    · rw [Nat.toDigits_of_lt_base h10]
      exact ⟨_, [], rfl, digitChar_ne_zero n h10 hn⟩
    · -- the digits of `n / 10` come first
      have hq : 0 < n / 10 := by omega
      obtain ⟨c, cs, hcs, hc⟩ := ih (n / 10) (by omega) hq
      have hsplit := Nat.toDigits_append_toDigits (b := 10) (by omega) hq (Nat.mod_lt n (by omega))
      rw [Nat.div_add_mod] at hsplit
      rw [← hsplit, hcs]
      exact ⟨c, _, rfl, hc⟩

theorem readIntDigits_toDigits_ok (n : Nat) {rest : List Char} (hr : Follows rest) :
    readIntDigits (Nat.toDigits 10 n ++ rest) = .ok (Nat.toDigits 10 n, rest) := by
  rcases Nat.eq_zero_or_pos n with rfl | hn
  · -- zero is one digit, and no digit follows it
    cases rest with
    | nil => rfl
    | cons d rest' =>
      show readIntDigits ('0' :: d :: rest') = _
      rw [readIntDigits.eq_1, hr.not_digit d rest' rfl]
      rfl
  · obtain ⟨c, cs, hcs, hc⟩ := toDigits_head hn
    have hdig := toDigits_isDigit n
    rw [hcs] at hdig ⊢
    rw [List.cons_append, readIntDigits.eq_3 c (cs ++ rest) hc, if_pos (hdig c List.mem_cons_self),
      ← List.cons_append, spanDigits_append hdig hr.not_digit]

theorem readNumber_toDigits_ok {n : Nat} (hn : n ≤ Number.maxU64) {rest : List Char}
    (hr : Follows rest) : readNumber false (Nat.toDigits 10 n ++ rest) = .ok (.num (.nat n), rest) := by
  have hgather : Number.gatherInt (Nat.toDigits 10 n) (0, 0, false) = (n, 0, false) := by
    have := gatherInt_of_le (Nat.toDigits 10 n) 0 0 (by rw [digitsValue_toDigits]; exact hn)
    rwa [digitsValue_toDigits] at this
  unfold readNumber
  simp only [readIntDigits_toDigits_ok n hr, readFraction_of_follows hr, readExponent_of_follows hr,
    bind, Except.bind, Number.ofDigits, hgather, pure, Except.pure]
  rfl

theorem follows_nil : Follows [] := fun _ _ h => nomatch h

/-- A natural that fits 64 bits reads back as itself. -/
theorem readsBack_nat {n : Nat} (hn : n ≤ Number.maxU64) : (Number.nat n).readsBack = true := by
  obtain ⟨c, cs, hcs, hc, -⟩ := toDigits_digitLed n
  have hparse : parse (render (.num (.nat n))) = .ok (.num (.nat n)) := by
    unfold parse
    dsimp only
    rw [render_nat, hcs, show 2 * (c :: cs).length + 2 = 2 * (c :: cs).length + 1 + 1 from rfl,
      readValue_digit hc, ← hcs, ← List.append_nil (Nat.toDigits 10 n),
      readNumber_toDigits_ok hn follows_nil]
    rfl
  unfold Number.readsBack
  rw [hparse]
  simp

end Numbers

mutual

/-- Whether every number in a value reads back from its written form. -/
def numbersReadBack : Json → Bool
  | .num x => x.readsBack
  | .arr items => numbersReadBackItems items
  | .obj ms => numbersReadBackMembers ms
  | _ => true

def numbersReadBackItems : List Json → Bool
  | [] => true
  | i :: is => numbersReadBack i && numbersReadBackItems is

def numbersReadBackMembers : List (String × Json) → Bool
  | [] => true
  | (_, v) :: ms => numbersReadBack v && numbersReadBackMembers ms

end

mutual

/-- How deep arrays and objects nest in a value: none in a literal, a number or a text. -/
def depth : Json → Nat
  | .arr items => depthItems items + 1
  | .obj ms => depthMembers ms + 1
  | _ => 0

def depthItems : List Json → Nat
  | [] => 0
  | i :: is => max (depth i) (depthItems is)

def depthMembers : List (String × Json) → Nat
  | [] => 0
  | (_, v) :: ms => max (depth v) (depthMembers ms)

end

section Measures

theorem numbersReadBackItems_eq (items : List Json) :
    numbersReadBackItems items = items.all numbersReadBack := by
  induction items with
  | nil => rfl
  | cons i is ih => rw [numbersReadBackItems, ih, List.all_cons]

theorem numbersReadBackMembers_eq (ms : List (String × Json)) :
    numbersReadBackMembers ms = ms.all fun m => numbersReadBack m.2 := by
  induction ms with
  | nil => rfl
  | cons m ms ih => rw [numbersReadBackMembers, ih, List.all_cons]

@[simp] theorem numbersReadBack_num (x : Number) : numbersReadBack (.num x) = x.readsBack := rfl

@[simp] theorem numbersReadBack_arr (items : List Json) :
    numbersReadBack (.arr items) = items.all numbersReadBack := by
  rw [numbersReadBack, numbersReadBackItems_eq]

@[simp] theorem numbersReadBack_obj (ms : List (String × Json)) :
    numbersReadBack (.obj ms) = ms.all fun m => numbersReadBack m.2 := by
  rw [numbersReadBack, numbersReadBackMembers_eq]

theorem depthItems_le_iff {items : List Json} {d : Nat} :
    depthItems items ≤ d ↔ ∀ i ∈ items, depth i ≤ d := by
  induction items with
  | nil => simp [depthItems]
  | cons i is ih => simp [depthItems, ih]

theorem depthMembers_le_iff {ms : List (String × Json)} {d : Nat} :
    depthMembers ms ≤ d ↔ ∀ m ∈ ms, depth m.2 ≤ d := by
  induction ms with
  | nil => simp [depthMembers]
  | cons m ms ih => simp [depthMembers, ih]

theorem depth_lt_of_mem_arr {items : List Json} {i : Json} (hi : i ∈ items) :
    depth i < depth (.arr items) := by
  have := depthItems_le_iff.mp (Nat.le_refl _) i hi
  rw [depth]
  omega

theorem depth_lt_of_mem_obj {ms : List (String × Json)} {m : String × Json} (hm : m ∈ ms) :
    depth m.2 < depth (.obj ms) := by
  have := depthMembers_le_iff.mp (Nat.le_refl _) m hm
  rw [depth]
  omega

theorem render_length_pos (v : Json) : 0 < (render v).toList.length := by
  obtain ⟨c, cs, h, -⟩ := render_head v
  rw [h]
  exact Nat.succ_pos _

end Measures

section Exact

/-- With `fuel`, the written form of a value followed by a comma, a bracket or the end reads back to
the value's normal form, when its text is shorter than the fuel, it nests less deep than the room
and its numbers read back. -/
def ValueReadsExactly (fuel : Nat) : Prop :=
  ∀ room v rest, Follows rest → (render v).toList.length < fuel → depth v < room →
    numbersReadBack v = true → readValue fuel room ((render v).toList ++ rest) = .ok (normal v, rest)

def ItemsReadExactly (fuel : Nat) : Prop :=
  ∀ room acc (items : List Json) rest, items ≠ [] →
    (commaJoin (renderItems items)).toList.length + 1 < fuel →
    (∀ i ∈ items, depth i < room) → (∀ i ∈ items, numbersReadBack i = true) →
    readItems fuel room acc ((commaJoin (renderItems items)).toList ++ ']' :: rest) =
      .ok (.arr (acc.reverse ++ items.map normal), rest)

def MembersReadExactly (fuel : Nat) : Prop :=
  ∀ room acc (qs : List (String × Json)) rest, qs ≠ [] →
    (commaJoin (qs.map memberText)).toList.length + 1 < fuel →
    (∀ q ∈ qs, depth q.2 < room) → (∀ q ∈ qs, numbersReadBack q.2 = true) →
    readMembers fuel room acc ((commaJoin (qs.map memberText)).toList ++ '}' :: rest) =
      .ok (.obj (acc.reverse ++ qs.map fun q => (q.1, normal q.2)), rest)

theorem itemsReadExactly_succ {fuel : Nat} (hv : ValueReadsExactly fuel)
    (hi : ItemsReadExactly fuel) : ItemsReadExactly (fuel + 1) := by
  intro room acc items rest hne hlen hdepth hnum
  obtain ⟨i, is, rfl⟩ := List.exists_cons_of_ne_nil hne
  cases is with
  | nil =>
    simp only [renderItems, commaJoin_singleton] at hlen ⊢
    unfold readItems
    rw [hv room i (']' :: rest) (follows_bracket rest) (by omega) (hdepth i List.mem_cons_self)
      (hnum i List.mem_cons_self)]
    simp [bind, Except.bind, skipSpace, isSpace]
  | cons j js =>
    have htext : (commaJoin (renderItems (i :: j :: js))).toList =
        (render i).toList ++ ',' :: (commaJoin (renderItems (j :: js))).toList := by
      simp only [renderItems, commaJoin_cons_cons]
    have hpos := render_length_pos i
    rw [htext] at hlen ⊢
    simp only [List.length_append, List.length_cons] at hlen
    rw [List.append_assoc, List.cons_append]
    unfold readItems
    rw [hv room i _ (follows_comma _) (by omega) (hdepth i List.mem_cons_self)
      (hnum i List.mem_cons_self)]
    simp only [bind, Except.bind, skipSpace_of_not_space (show isSpace ',' = false from rfl)]
    rw [hi room (normal i :: acc) (j :: js) rest (by simp) (by omega)
      (fun x hx => hdepth x (List.mem_cons_of_mem i hx))
      (fun x hx => hnum x (List.mem_cons_of_mem i hx))]
    simp

theorem membersReadExactly_succ {fuel : Nat} (hv : ValueReadsExactly fuel)
    (hm : MembersReadExactly fuel) : MembersReadExactly (fuel + 1) := by
  intro room acc qs rest hne hlen hdepth hnum
  obtain ⟨⟨k, x⟩, qs, rfl⟩ := List.exists_cons_of_ne_nil hne
  obtain ⟨tail, htext, htail⟩ := memberTexts_cons k x qs rest
  have hfollows : Follows tail := by
    rcases htail with ⟨-, rfl⟩ | ⟨-, rfl⟩
    · exact follows_brace rest
    · exact follows_comma _
  have hsize := congrArg List.length htext
  simp only [List.length_append, List.length_cons] at hsize
  have hxlen : (render x).toList.length < fuel := by
    rcases htail with ⟨-, rfl⟩ | ⟨-, rfl⟩ <;>
      simp only [List.length_append, List.length_cons] at hsize <;> omega
  rw [htext]
  unfold readMembers
  simp only [skipSpace_of_not_space (show isSpace '"' = false from rfl), readString_escaped,
    List.reverse_nil, List.nil_append, String.ofList_toList, bind, Except.bind,
    skipSpace_of_not_space (show isSpace ':' = false from rfl)]
  rw [hv room x tail hfollows hxlen (hdepth _ List.mem_cons_self) (hnum _ List.mem_cons_self)]
  rcases htail with ⟨rfl, rfl⟩ | ⟨hqs, rfl⟩
  · -- the last member: the brace closes the object
    simp [skipSpace, isSpace]
  · simp only [List.length_append, List.length_cons] at hsize
    simp only [skipSpace_of_not_space (show isSpace ',' = false from rfl)]
    rw [hm room ((k, normal x) :: acc) qs rest hqs (by omega)
      (fun q hq => hdepth q (List.mem_cons_of_mem _ hq))
      (fun q hq => hnum q (List.mem_cons_of_mem _ hq))]
    simp

theorem valueReadsExactly_succ {fuel : Nat} (hi : ItemsReadExactly fuel)
    (hm : MembersReadExactly fuel) : ValueReadsExactly (fuel + 1) := by
  intro room v rest hf hlen hdepth hnum
  cases v with
  | null => rw [readValue_null]; rfl
  | bool b => rw [readValue_bool]; rfl
  | num x => exact readValue_num hnum hf fuel room
  | str s => rw [readValue_str]; rfl
  | arr items =>
    have hroom : ¬ room ≤ 1 := by
      simp only [depth] at hdepth
      omega
    cases items with
    | nil =>
      rw [readValue_arr_nil, if_neg hroom]
      rfl
    | cons i is =>
      rw [render_arr] at hlen
      simp only [List.length_cons, List.length_append] at hlen
      rw [readValue_arr_cons, if_neg hroom, hi (room - 1) [] (i :: is) rest (by simp) (by omega)
        (fun x hx => by have := depth_lt_of_mem_arr hx; omega)
        (fun x hx => by simp only [numbersReadBack_arr, List.all_eq_true] at hnum; exact hnum x hx)]
      simp
  | obj ms =>
    have hroom : ¬ room ≤ 1 := by
      simp only [depth] at hdepth
      omega
    rw [render_obj] at hlen
    simp only [List.length_cons, List.length_append] at hlen
    have hnormal : normal (.obj ms) = .obj ((keyOrder ms).map fun m => (m.1, normal m.2)) := by
      rw [normal_obj, keyOrder_map]
    cases hq : keyOrder ms with
    | nil =>
      rw [readValue_obj_nil _ _ _ hq, if_neg hroom, hnormal, hq]
      rfl
    | cons q qs =>
      rw [hq] at hlen
      rw [readValue_obj_cons _ _ _ hq, if_neg hroom, hm (room - 1) [] (q :: qs) rest (by simp)
        (by omega)
        (fun x hx => by
          have := depth_lt_of_mem_obj (mem_of_mem_keyOrder (hq ▸ hx))
          omega)
        (fun x hx => by
          simp only [numbersReadBack_obj, List.all_eq_true] at hnum
          exact hnum x (mem_of_mem_keyOrder (hq ▸ hx))), hnormal, hq]
      simp

/-- Every amount of fuel reads exactly the written values, items and members that it covers. -/
theorem readsExactly (fuel : Nat) :
    ValueReadsExactly fuel ∧ ItemsReadExactly fuel ∧ MembersReadExactly fuel := by
  induction fuel with
  | zero =>
    exact ⟨fun _ _ _ _ h => absurd h (Nat.not_lt_zero _),
      fun _ _ _ _ _ h => absurd h (Nat.not_lt_zero _),
      fun _ _ _ _ _ h => absurd h (Nat.not_lt_zero _)⟩
  | succ fuel ih =>
    obtain ⟨hv, hi, hm⟩ := ih
    exact ⟨valueReadsExactly_succ hi hm, itemsReadExactly_succ hv hi, membersReadExactly_succ hv hm⟩

/-- A value whose numbers read back, nested less deep than the reader allows, parses from its
written form to its normal form. -/
theorem parse_render_normal {v : Json} (hnum : numbersReadBack v = true) (hdepth : depth v < 128) :
    parse (render v) = .ok (normal v) := by
  have hread := (readsExactly (2 * (render v).toList.length + 2)).1 128 v [] follows_nil
    (by omega) hdepth hnum
  rw [List.append_nil] at hread
  unfold parse
  dsimp only
  rw [hread]
  rfl

end Exact

section Nesting

/-- With `fuel`, a value is read nested less deep than the room it is read with. -/
def ValueWithin (fuel : Nat) : Prop :=
  ∀ room cs v r, 1 ≤ room → readValue fuel room cs = .ok (v, r) → depth v < room

def ItemsWithin (fuel : Nat) : Prop :=
  ∀ room acc cs w r, 1 ≤ room → (∀ a ∈ acc, depth a < room) →
    readItems fuel room acc cs = .ok (w, r) → depth w ≤ room

def MembersWithin (fuel : Nat) : Prop :=
  ∀ room acc cs w r, 1 ≤ room → (∀ a ∈ acc, depth a.2 < room) →
    readMembers fuel room acc cs = .ok (w, r) → depth w ≤ room

theorem readLiteral_ok {word : List Char} {v w : Json} {cs r : List Char}
    (h : readLiteral word v cs = .ok (w, r)) : w = v := by
  unfold readLiteral at h
  split at h
  · cases h
    rfl
  · split at h <;> cases h

theorem valueWithin_succ {fuel : Nat} (hi : ItemsWithin fuel) (hm : MembersWithin fuel) :
    ValueWithin (fuel + 1) := by
  intro room cs v r hroom h
  rw [readValue.eq_2] at h
  -- one case per first character: literals, texts and numbers nest nothing
  split at h
  · cases h
  · rw [readLiteral_ok h]
    exact hroom
  · rw [readLiteral_ok h]
    exact hroom
  · rw [readLiteral_ok h]
    exact hroom
  · obtain ⟨⟨t, rest⟩, -, h⟩ := bind_eq_ok.mp h
    cases h
    exact hroom
  · obtain ⟨y, rfl⟩ := readNumber_num h
    exact hroom
  · -- an array takes one level of the room
    split at h
    · cases h
    · split at h
      · cases h
        simp only [depth, depthItems]
        omega
      · have := hi (room - 1) [] _ v r (by omega) (by simp) h
        omega
  · split at h
    · cases h
    · split at h
      · cases h
        simp only [depth, depthMembers]
        omega
      · have := hm (room - 1) [] _ v r (by omega) (by simp) h
        omega
  · split at h
    · obtain ⟨y, rfl⟩ := readNumber_num h
      exact hroom
    · cases h

theorem itemsWithin_succ {fuel : Nat} (hv : ValueWithin fuel) (hi : ItemsWithin fuel) :
    ItemsWithin (fuel + 1) := by
  intro room acc cs w r hroom hacc h
  unfold readItems at h
  obtain ⟨⟨v, rest⟩, h₁, h₂⟩ := bind_eq_ok.mp h
  have hvd := hv room cs v rest hroom h₁
  have hacc' : ∀ a ∈ v :: acc, depth a < room := by
    intro a ha
    rcases List.mem_cons.mp ha with rfl | ha
    · exact hvd
    · exact hacc a ha
  dsimp only at h₂
  split at h₂
  · exact hi room (v :: acc) _ w r hroom hacc' h₂
  · -- the bracket closes the array of the items read
    cases h₂
    have hitems : depthItems (v :: acc).reverse ≤ room - 1 :=
      depthItems_le_iff.mpr fun a ha => by
        have := hacc' a (List.mem_reverse.mp ha)
        omega
    simp only [depth]
    omega
  · cases h₂
  · cases h₂

theorem membersWithin_succ {fuel : Nat} (hv : ValueWithin fuel) (hm : MembersWithin fuel) :
    MembersWithin (fuel + 1) := by
  intro room acc cs w r hroom hacc h
  unfold readMembers at h
  split at h
  · obtain ⟨⟨k, rest⟩, -, h⟩ := bind_eq_ok.mp h
    dsimp only at h
    split at h
    · obtain ⟨⟨v, rest''⟩, h₁, h₂⟩ := bind_eq_ok.mp h
      have hvd := hv room _ v rest'' hroom h₁
      have hacc' : ∀ a ∈ (k, v) :: acc, depth a.2 < room := by
        intro a ha
        rcases List.mem_cons.mp ha with rfl | ha
        · exact hvd
        · exact hacc a ha
      dsimp only at h₂
      split at h₂
      · exact hm room ((k, v) :: acc) _ w r hroom hacc' h₂
      · -- the brace closes the object of the members read
        cases h₂
        have hms : depthMembers ((k, v) :: acc).reverse ≤ room - 1 :=
          depthMembers_le_iff.mpr fun a ha => by
            have := hacc' a (List.mem_reverse.mp ha)
            omega
        simp only [depth]
        omega
      · cases h₂
      · cases h₂
    · cases h
    · cases h
  · cases h
  · cases h

/-- Every amount of fuel reads values nested less deep than their room. -/
theorem readsWithin (fuel : Nat) : ValueWithin fuel ∧ ItemsWithin fuel ∧ MembersWithin fuel := by
  induction fuel with
  | zero =>
    refine ⟨fun _ _ _ _ _ h => ?_, fun _ _ _ _ _ _ _ h => ?_, fun _ _ _ _ _ _ _ h => ?_⟩ <;>
      simp [readValue, readItems, readMembers] at h
  | succ fuel ih =>
    obtain ⟨hv, hi, hm⟩ := ih
    exact ⟨valueWithin_succ hi hm, itemsWithin_succ hv hi, membersWithin_succ hv hm⟩

/-- A parsed document nests less deep than the reader allows. -/
theorem depth_lt_of_parse {s : String} {v : Json} (h : parse s = .ok v) : depth v < 128 := by
  unfold parse at h
  dsimp only at h
  obtain ⟨⟨w, rest⟩, h₁, h₂⟩ := bind_eq_ok.mp h
  have hw := (readsWithin _).1 128 _ w rest (by decide) h₁
  split at h₂
  · cases h₂
    exact hw
  · cases h₂

end Nesting

end Json

end LoadDispatch
