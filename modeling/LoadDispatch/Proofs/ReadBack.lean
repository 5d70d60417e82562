import LoadDispatch.Proofs.NumeralText
import LoadDispatch.Proofs.MemberOrder
import Mathlib.Data.List.Forall2

/-!
Reading back what the writer writes: a written document that parses parses to what was written, up
to the numbers the writer cannot write exactly (`parse_render`). The reader's three mutually
recursive parts are followed by induction on their fuel.
-/
namespace LoadDispatch.Json

section Dispatch

theorem skipSpace_of_not_space {c : Char} (h : isSpace c = false) (cs : List Char) :
    skipSpace (c :: cs) = c :: cs := by
  simp [skipSpace, h]

theorem isSpace_of_numeral {c : Char} (h : isNumeralChar c = true) : isSpace c = false := by
  simp only [isSpace, Bool.or_eq_false_iff, beq_eq_false_iff_ne, ne_eq]
  refine ⟨⟨⟨?_, ?_⟩, ?_⟩, ?_⟩ <;> rintro rfl <;> revert h <;> decide

theorem readValue_digit {c : Char} (h : c.isDigit = true) (fuel room : Nat) (cs : List Char) :
    readValue (fuel + 1) room (c :: cs) = readNumber false (c :: cs) := by
  rw [readValue.eq_def]
  simp only [skipSpace_of_not_space (isSpace_of_numeral (isNumeralChar_of_isDigit h))]
  split <;> simp_all

theorem readValue_minus (fuel room : Nat) (cs : List Char) :
    readValue (fuel + 1) room ('-' :: cs) = readNumber true cs := by
  simp [readValue, skipSpace, isSpace]

/-- A numeral followed by a comma, a bracket or the end reads as a number, up to its end or
leaving a numeral character behind. -/
theorem readValue_numeral {t rest r : List Char} {w : Json} {fuel room : Nat} (ht : Numeral t)
    (hf : Follows rest) (h : readValue (fuel + 1) room (t ++ rest) = .ok (w, r)) :
    (∃ y, w = .num y) ∧ (r = rest ∨ Stray r) := by
  have hall := ht.numeral
  rcases ht with ⟨c, cs, rfl, hc, -⟩ | ⟨u, rfl, -⟩
  · rw [List.cons_append, readValue_digit hc] at h
    refine ⟨readNumber_num h, ?_⟩
    exact (readNumber_numeral h).of_follows hall hf
  · rw [List.cons_append, readValue_minus] at h
    refine ⟨readNumber_num h, ?_⟩
    exact (readNumber_numeral h).of_follows (fun c hc => hall c (List.mem_cons_of_mem _ hc)) hf

theorem render_nat (n : Nat) : (render (.num (.nat n))).toList = Nat.toDigits 10 n := by
  simp [render, Number.text, toString, Nat.repr]

theorem readValue_nat {n : Nat} {rest r : List Char} {w : Json} {fuel room : Nat}
    (hn : n ≤ Number.maxU64) (hf : Follows rest)
    (h : readValue (fuel + 1) room ((render (.num (.nat n))).toList ++ rest) = .ok (w, r)) :
    w = .num (.nat n) ∧ r = rest := by
  rw [render_nat] at h
  obtain ⟨c, cs, hds, hc, -⟩ := toDigits_digitLed n
  rw [hds, List.cons_append, readValue_digit hc, ← List.cons_append, ← hds] at h
  exact readNumber_toDigits hn hf h

end Dispatch


section Strings

theorem hexValue_hexDigit : ∀ k, k < 16 → hexValue (hexDigit k) = some k := by decide

theorem readString_plain {c : Char} (hq : c ≠ '"') (hb : c ≠ '\\') (hc : 0x20 ≤ c.toNat)
    (acc rest : List Char) : readString acc (c :: rest) = readString (c :: acc) rest := by
  rw [readString.eq_def]
  split <;> simp_all

theorem eq_ofNat_of_toNat {c : Char} {n : Nat} (h : c.toNat = n) : c = Char.ofNat n := by
  rw [← h, Char.ofNat_toNat]

theorem readString_escapeChar (c : Char) (acc rest : List Char) :
    readString acc (escapeChar c ++ rest) = readString (c :: acc) rest := by
  unfold escapeChar
  split_ifs with hq hb hn hr ht hback hfeed hlt <;> simp only [beq_iff_eq] at *
  · subst hq; simp [readString, simpleEscape]
  · subst hb; simp [readString, simpleEscape]
  · subst hn; simp [readString, simpleEscape]
  · subst hr; simp [readString, simpleEscape]
  · subst ht; simp [readString, simpleEscape]
  · rw [eq_ofNat_of_toNat hback]; simp [readString, simpleEscape]
  · rw [eq_ofNat_of_toNat hfeed]; simp [readString, simpleEscape]
  · -- a control character is written as a `\u` escape of its code
    have h1 := hexValue_hexDigit (c.toNat / 16) (by omega)
    have h2 := hexValue_hexDigit (c.toNat % 16) (by omega)
    have hhex : hex4 '0' '0' (hexDigit (c.toNat / 16)) (hexDigit (c.toNat % 16)) = some c.toNat := by
      have h0 : hexValue '0' = some 0 := by decide
      simp only [hex4, h0, h1, h2]
      simp only [Option.pure_def, Option.bind_eq_bind, Option.bind_some, Option.some.injEq]
      omega
    simp only [List.cons_append, List.nil_append]
    rw [readString]
    have hlo : ¬ (55296 ≤ c.toNat ∧ c.toNat < 56320) := by omega
    have hhi : ¬ (56320 ≤ c.toNat ∧ c.toNat < 57344) := by omega
    simp only [hhex, hlo, hhi, if_false, Char.ofNat_toNat]
  · simp only [List.cons_append, List.nil_append]
    exact readString_plain hq hb (by omega) acc rest

theorem readString_escaped (s acc rest : List Char) :
    readString acc (s.flatMap escapeChar ++ '"' :: rest) =
      .ok (String.ofList (acc.reverse ++ s), rest) := by
  induction s generalizing acc with
  | nil => simp [readString]
  | cons c s ih =>
    rw [List.flatMap_cons, List.append_assoc, readString_escapeChar, ih]
    simp

theorem quote_toList (s : String) :
    (quote s).toList = '"' :: (s.toList.flatMap escapeChar ++ ['"']) := by
  simp [quote]

theorem readValue_str (s : String) (fuel room : Nat) (rest : List Char) :
    readValue (fuel + 1) room ((render (.str s)).toList ++ rest) = .ok (.str s, rest) := by
  simp only [render, quote_toList, List.cons_append, List.append_assoc]
  simp [readValue, skipSpace, isSpace, readString_escaped, bind, Except.bind, pure, Except.pure]

end Strings

theorem readValue_null (fuel room : Nat) (rest : List Char) :
    readValue (fuel + 1) room ((render .null).toList ++ rest) = .ok (.null, rest) := by
  simp [render, readValue, skipSpace, isSpace, readLiteral]

theorem readValue_bool (b : Bool) (fuel room : Nat) (rest : List Char) :
    readValue (fuel + 1) room ((render (.bool b)).toList ++ rest) = .ok (.bool b, rest) := by
  cases b <;> simp [render, readValue, skipSpace, isSpace, readLiteral]


section Texts

theorem render_arr (items : List Json) :
    (render (.arr items)).toList = '[' :: ((commaJoin (renderItems items)).toList ++ [']']) := by
  simp [render]

def memberText (m : String × Json) : String := quote m.1 ++ ":" ++ render m.2

theorem renderMembers_eq (ms : List (String × Json)) :
    renderMembers ms = ms.map fun m => (m.1, render m.2) := by
  induction ms with
  | nil => rfl
  | cons m ms ih => simp [renderMembers, ih]

/-- An object is written as its members in key order, the last of each key kept. -/
theorem render_obj (ms : List (String × Json)) :
    (render (.obj ms)).toList =
      '{' :: ((commaJoin ((keyOrder ms).map memberText)).toList ++ ['}']) := by
  have horder : orderMembers (renderMembers ms) = (keyOrder ms).map fun m => (m.1, render m.2) := by
    rw [orderMembers_eq, renderMembers_eq, keyOrder_map]
  simp only [render, horder, List.map_map]
  simp only [String.toList_append]
  rfl

theorem commaJoin_cons_cons (x y : String) (ys : List String) :
    (commaJoin (x :: y :: ys)).toList = x.toList ++ ',' :: (commaJoin (y :: ys)).toList := by
  simp [commaJoin, String.intercalate_cons_cons]

theorem commaJoin_singleton (x : String) : (commaJoin [x]).toList = x.toList := by
  simp [commaJoin]

theorem commaJoin_cons (x : String) (xs : List String) :
    ∃ t, (commaJoin (x :: xs)).toList = x.toList ++ t := by
  cases xs with
  | nil => exact ⟨[], by simp [commaJoin_singleton]⟩
  | cons y ys => exact ⟨_, commaJoin_cons_cons x y ys⟩

theorem memberText_toList (m : String × Json) :
    (memberText m).toList =
      '"' :: (m.1.toList.flatMap escapeChar ++ '"' :: ':' :: (render m.2).toList) := by
  simp [memberText, quote_toList]

/-- The first character of a written value: never a blank and never a closing bracket. -/
theorem render_head (v : Json) :
    ∃ c cs, (render v).toList = c :: cs ∧ isSpace c = false ∧ c ≠ ']' ∧ c ≠ '}' := by
  cases v with
  | null => exact ⟨'n', ['u', 'l', 'l'], by simp [render], rfl, by decide, by decide⟩
  | bool b =>
    cases b
    · exact ⟨'f', ['a', 'l', 's', 'e'], by simp [render], rfl, by decide, by decide⟩
    · exact ⟨'t', ['r', 'u', 'e'], by simp [render], rfl, by decide, by decide⟩
  | num x =>
    rcases text_numeral x with ⟨c, cs, ht, hc, -⟩ | ⟨u, ht, -⟩
    · refine ⟨c, cs, by simpa [render] using ht, isSpace_of_numeral (isNumeralChar_of_isDigit hc),
        ?_, ?_⟩ <;> rintro rfl <;> revert hc <;> decide
    · exact ⟨'-', u, by simpa [render] using ht, rfl, by decide, by decide⟩
  | str s => exact ⟨'"', s.toList.flatMap escapeChar ++ ['"'], by simp [render, quote_toList], rfl,
    by decide, by decide⟩
  | arr items => exact ⟨'[', _, render_arr items, rfl, by decide, by decide⟩
  | obj ms => exact ⟨'{', _, render_obj ms, rfl, by decide, by decide⟩

end Texts

section Containers

variable (fuel room : Nat) (rest : List Char)

theorem readValue_arr_nil :
    readValue (fuel + 1) room ((render (.arr [])).toList ++ rest) =
      if room ≤ 1 then .error .tooDeep else .ok (.arr [], rest) := by
  simp [render_arr, renderItems, commaJoin, readValue, skipSpace, isSpace]

theorem readValue_arr_cons (i : Json) (is : List Json) :
    readValue (fuel + 1) room ((render (.arr (i :: is))).toList ++ rest) =
      if room ≤ 1 then .error .tooDeep
      else readItems fuel (room - 1) [] ((commaJoin (renderItems (i :: is))).toList ++ ']' :: rest) := by
  rw [render_arr, List.cons_append, List.append_assoc, List.singleton_append]
  simp only [readValue, skipSpace_of_not_space (show isSpace '[' = false from rfl)]
  split
  · rfl
  obtain ⟨c, cs, hc, hsp, hb, -⟩ := render_head i
  obtain ⟨t, ht⟩ := commaJoin_cons (render i) (renderItems is)
  have htext : (commaJoin (renderItems (i :: is))).toList ++ ']' :: rest =
      c :: (cs ++ t ++ ']' :: rest) := by
    rw [renderItems, ht, hc]
    simp
  rw [htext, skipSpace_of_not_space hsp]
  split
  · rename_i heq
    exact absurd (List.cons.inj heq).1 hb
  · rfl

theorem readValue_obj_nil {ms : List (String × Json)} (hq : keyOrder ms = []) :
    readValue (fuel + 1) room ((render (.obj ms)).toList ++ rest) =
      if room ≤ 1 then .error .tooDeep else .ok (.obj [], rest) := by
  simp [render_obj, hq, commaJoin, readValue, skipSpace, isSpace]

theorem readValue_obj_cons {ms : List (String × Json)} {q : String × Json}
    {qs : List (String × Json)} (hq : keyOrder ms = q :: qs) :
    readValue (fuel + 1) room ((render (.obj ms)).toList ++ rest) =
      if room ≤ 1 then .error .tooDeep
      else readMembers fuel (room - 1) []
        ((commaJoin ((q :: qs).map memberText)).toList ++ '}' :: rest) := by
  rw [render_obj, hq, List.cons_append, List.append_assoc, List.singleton_append]
  simp only [readValue, skipSpace_of_not_space (show isSpace '{' = false from rfl)]
  split
  · rfl
  obtain ⟨t, ht⟩ := commaJoin_cons (memberText q) (qs.map memberText)
  obtain ⟨Y, hY⟩ : ∃ Y, (commaJoin ((q :: qs).map memberText)).toList ++ '}' :: rest =
      '"' :: Y := ⟨_, by rw [List.map_cons, ht, memberText_toList, List.cons_append, List.cons_append]⟩
  rw [hY, skipSpace_of_not_space (show isSpace '"' = false from rfl)]
  split
  · rename_i heq
    exact absurd (List.cons.inj heq).1 (by decide)
  · rfl

end Containers


/-- What reading the written text of a value gives back: literals and strings as they were, a
natural that fits 64 bits as itself, any other number as some number, arrays item by item and
objects key by key. -/
inductive ReadsBack : Json → Json → Prop
  | null : ReadsBack .null .null
  | bool (b : Bool) : ReadsBack (.bool b) (.bool b)
  | nat {n : Nat} (h : n ≤ Number.maxU64) : ReadsBack (.num (.nat n)) (.num (.nat n))
  | num {x y : Number} (h : ∀ n, x = .nat n → Number.maxU64 < n) : ReadsBack (.num x) (.num y)
  | str (s : String) : ReadsBack (.str s) (.str s)
  | arr {items items' : List Json} (h : List.Forall₂ ReadsBack items items') :
      ReadsBack (.arr items) (.arr items')
  | obj {ms ms' : List (String × Json)}
      (hkeys : ∀ k, (Json.obj ms).get? k = none ↔ (Json.obj ms').get? k = none)
      (hvals : ∀ k v w, (Json.obj ms).get? k = some v → (Json.obj ms').get? k = some w →
        ReadsBack v w) :
      ReadsBack (.obj ms) (.obj ms')

def MemberReadsBack (q p : String × Json) : Prop := q.1 = p.1 ∧ ReadsBack q.2 p.2

theorem find?_forall₂ {qs ps : List (String × Json)} (h : List.Forall₂ MemberReadsBack qs ps)
    (k : String) :
    (qs.find? (·.1 == k) = none ↔ ps.find? (·.1 == k) = none) ∧
      ∀ q p, qs.find? (·.1 == k) = some q → ps.find? (·.1 == k) = some p → ReadsBack q.2 p.2 := by
  induction h with
  | nil => simp
  | @cons q p _ _ hqp _ ih =>
    obtain ⟨hkey, hval⟩ := hqp
    by_cases hk : q.1 = k
    · have hk' : p.1 = k := hkey ▸ hk
      simp only [List.find?_cons, hk, hk', beq_self_eq_true]
      refine ⟨by simp, ?_⟩
      rintro q' p' ⟨⟩ ⟨⟩
      exact hval
    · have hk' : (p.1 == k) = false := by simpa [← hkey] using hk
      have hk'' : (q.1 == k) = false := by simpa using hk
      simpa only [List.find?_cons, hk', hk''] using ih

theorem ReadsBack.of_members {ms qs ps : List (String × Json)}
    (hq : ∀ k, (Json.obj qs).get? k = (Json.obj ms).get? k) (h : List.Forall₂ MemberReadsBack qs ps) :
    ReadsBack (.obj ms) (.obj ps) := by
  have hrev := List.forall₂_reverse_iff.mpr h
  refine .obj (fun k => ?_) (fun k v w hv hw => ?_)
  · rw [← hq k]
    simpa [Json.get?] using (find?_forall₂ hrev k).1
  · rw [← hq k] at hv
    simp only [Json.get?, Option.map_eq_some_iff] at hv hw
    obtain ⟨q, hqk, rfl⟩ := hv
    obtain ⟨p, hpk, rfl⟩ := hw
    exact (find?_forall₂ hrev k).2 q p hqk hpk


theorem ReadsBack.get?_obj {ms : List (String × Json)} {w : Json} (h : ReadsBack (.obj ms) w)
    (k : String) :
    ((Json.obj ms).get? k = none → w.get? k = none) ∧
      ∀ v, (Json.obj ms).get? k = some v → ∃ v', w.get? k = some v' ∧ ReadsBack v v' := by
  cases h with
  | obj hkeys hvals =>
    refine ⟨(hkeys k).mp, fun v hv => ?_⟩
    cases hw : (Json.obj _).get? k with
    | none =>
      rw [(hkeys k).mpr hw] at hv
      cases hv
    | some v' => exact ⟨v', rfl, hvals k v v' hv hw⟩

theorem ReadsBack.nat_eq {n : Nat} {w : Json} (h : ReadsBack (.num (.nat n)) w)
    (hn : n ≤ Number.maxU64) : w = .num (.nat n) := by
  cases h with
  | nat _ => rfl
  | num h => exact absurd (h n rfl) (Nat.not_lt.mpr hn)

section Induction

/-- With `fuel`, a written value followed by a comma, a bracket or the end is read back up to its
end, or the read leaves a numeral character behind. -/
def ValueReadBack (fuel : Nat) : Prop :=
  ∀ room v rest w r, Follows rest → readValue fuel room ((render v).toList ++ rest) = .ok (w, r) →
    (r = rest ∧ ReadsBack v w) ∨ Stray r

def ItemsReadBack (fuel : Nat) : Prop :=
  ∀ room acc (items : List Json) rest w r, items ≠ [] →
    readItems fuel room acc ((commaJoin (renderItems items)).toList ++ ']' :: rest) = .ok (w, r) →
    r = rest ∧ ∃ ps, w = .arr (acc.reverse ++ ps) ∧ List.Forall₂ ReadsBack items ps

def MembersReadBack (fuel : Nat) : Prop :=
  ∀ room acc (qs : List (String × Json)) rest w r, qs ≠ [] →
    readMembers fuel room acc ((commaJoin (qs.map memberText)).toList ++ '}' :: rest) =
      .ok (w, r) →
    r = rest ∧ ∃ ps, w = .obj (acc.reverse ++ ps) ∧ List.Forall₂ MemberReadsBack qs ps

theorem follows_comma (r : List Char) : Follows (',' :: r) := fun _ _ h => .inl (List.cons.inj h).1.symm
theorem follows_bracket (r : List Char) : Follows (']' :: r) :=
  fun _ _ h => .inr (.inl (List.cons.inj h).1.symm)
theorem follows_brace (r : List Char) : Follows ('}' :: r) :=
  fun _ _ h => .inr (.inr (List.cons.inj h).1.symm)

/-- After a stray numeral character no comma or closing bracket is found. -/
theorem Stray.skipSpace {r : List Char} (h : Stray r) :
    ∃ c r', skipSpace r = c :: r' ∧ c ≠ ',' ∧ c ≠ ']' ∧ c ≠ '}' := by
  obtain ⟨c, r', rfl, hc⟩ := h
  refine ⟨c, r', skipSpace_of_not_space (isSpace_of_numeral hc) r', ?_, ?_, ?_⟩ <;>
    rintro rfl <;> revert hc <;> decide

theorem itemsReadBack_succ {fuel : Nat} (hv : ValueReadBack fuel) (hi : ItemsReadBack fuel) :
    ItemsReadBack (fuel + 1) := by
  intro room acc items rest w r hne h
  obtain ⟨i, is, rfl⟩ := List.exists_cons_of_ne_nil hne
  unfold readItems at h
  obtain ⟨⟨v, r₁⟩, h₁, h₂⟩ := bind_eq_ok.mp h
  cases is with
  | nil =>
    simp only [renderItems, commaJoin_singleton] at h₁
    rcases hv room i (']' :: rest) v r₁ (follows_bracket rest) h₁ with ⟨rfl, hiv⟩ | hs
    · simp [skipSpace, isSpace] at h₂
      obtain ⟨rfl, rfl⟩ := h₂
      exact ⟨rfl, [v], rfl, .cons hiv .nil⟩
    · obtain ⟨c, r', hskip, hc₁, hc₂, -⟩ := hs.skipSpace
      dsimp only at h₂
      rw [hskip] at h₂
      split at h₂ <;> simp_all
  | cons j js =>
    have htext : (commaJoin (renderItems (i :: j :: js))).toList =
        (render i).toList ++ ',' :: (commaJoin (renderItems (j :: js))).toList := by
      simp only [renderItems, commaJoin_cons_cons]
    rw [htext, List.append_assoc, List.cons_append] at h₁
    rcases hv room i _ v r₁ (follows_comma _) h₁ with ⟨rfl, hiv⟩ | hs
    · simp [skipSpace, isSpace] at h₂
      obtain ⟨rfl, ps, rfl, hps⟩ := hi room (v :: acc) (j :: js) rest w r (by simp) h₂
      exact ⟨rfl, v :: ps, by simp, .cons hiv hps⟩
    · obtain ⟨c, r', hskip, hc₁, hc₂, -⟩ := hs.skipSpace
      dsimp only at h₂
      rw [hskip] at h₂
      split at h₂ <;> simp_all

theorem memberTexts_cons (k : String) (x : Json) (qs : List (String × Json)) (rest : List Char) :
    ∃ tail, (commaJoin (((k, x) :: qs).map memberText)).toList ++ '}' :: rest =
        '"' :: (k.toList.flatMap escapeChar ++ '"' :: ':' :: ((render x).toList ++ tail)) ∧
      ((qs = [] ∧ tail = '}' :: rest) ∨
        (qs ≠ [] ∧ tail = ',' :: ((commaJoin (qs.map memberText)).toList ++ '}' :: rest))) := by
  cases qs with
  | nil => exact ⟨_, by simp [commaJoin_singleton, memberText_toList], .inl ⟨rfl, rfl⟩⟩
  | cons q qs =>
    exact ⟨_, by simp [commaJoin_cons_cons, memberText_toList], .inr ⟨by simp, rfl⟩⟩

theorem membersReadBack_succ {fuel : Nat} (hv : ValueReadBack fuel) (hm : MembersReadBack fuel) :
    MembersReadBack (fuel + 1) := by
  intro room acc qs rest w r hne h
  obtain ⟨⟨k, x⟩, qs, rfl⟩ := List.exists_cons_of_ne_nil hne
  obtain ⟨tail, htext, htail⟩ := memberTexts_cons k x qs rest
  rw [htext] at h
  unfold readMembers at h
  simp only [skipSpace_of_not_space (show isSpace '"' = false from rfl), readString_escaped,
    List.reverse_nil, List.nil_append, String.ofList_toList, bind, Except.bind,
    skipSpace_of_not_space (show isSpace ':' = false from rfl)] at h
  have hfollows : Follows tail := by
    rcases htail with ⟨-, rfl⟩ | ⟨-, rfl⟩
    · exact follows_brace rest
    · exact follows_comma _
  rcases h₁ : readValue fuel room ((render x).toList ++ tail) with e | ⟨v, r₁⟩
  · rw [h₁] at h
    cases h
  rw [h₁] at h
  dsimp only at h
  rcases hv room x tail v r₁ hfollows h₁ with ⟨rfl, hxv⟩ | hs
  · rcases htail with ⟨rfl, rfl⟩ | ⟨hqs, rfl⟩
    · -- the last member: the brace closes the object
      simp [skipSpace, isSpace] at h
      obtain ⟨rfl, rfl⟩ := h
      exact ⟨rfl, [(k, v)], by simp, .cons ⟨rfl, hxv⟩ .nil⟩
    · simp [skipSpace, isSpace] at h
      obtain ⟨rfl, ps, rfl, hps⟩ := hm room ((k, v) :: acc) qs rest w r hqs h
      exact ⟨rfl, (k, v) :: ps, by simp, .cons ⟨rfl, hxv⟩ hps⟩
  · obtain ⟨c, r', hskip, hc₁, -, hc₃⟩ := hs.skipSpace
    rw [hskip] at h
    split at h <;> simp_all

theorem valueReadBack_succ {fuel : Nat} (hi : ItemsReadBack fuel) (hm : MembersReadBack fuel) :
    ValueReadBack (fuel + 1) := by
  intro room v rest w r hf h
  cases v with
  | null =>
    rw [readValue_null] at h
    cases h
    exact .inl ⟨rfl, .null⟩
  | bool b =>
    rw [readValue_bool] at h
    cases h
    exact .inl ⟨rfl, .bool b⟩
  | num x =>
    by_cases hx : ∃ n, x = .nat n ∧ n ≤ Number.maxU64
    · obtain ⟨n, rfl, hn⟩ := hx
      obtain ⟨rfl, rfl⟩ := readValue_nat hn hf h
      exact .inl ⟨rfl, .nat hn⟩
    · -- any other number is read as some number
      obtain ⟨⟨y, rfl⟩, hr⟩ := readValue_numeral (text_numeral x) hf (by simpa [render] using h)
      rcases hr with rfl | hs
      · exact .inl ⟨rfl, .num fun n hn => Nat.lt_of_not_le fun hle => hx ⟨n, hn, hle⟩⟩
      · exact .inr hs
  | str s =>
    rw [readValue_str] at h
    cases h
    exact .inl ⟨rfl, .str s⟩
  | arr items =>
    cases items with
    | nil =>
      rw [readValue_arr_nil] at h
      split at h
      · cases h
      · cases h
        exact .inl ⟨rfl, .arr .nil⟩
    | cons i is =>
      rw [readValue_arr_cons] at h
      split at h
      · cases h
      · obtain ⟨rfl, ps, rfl, hps⟩ := hi (room - 1) [] (i :: is) rest w r (by simp) h
        exact .inl ⟨rfl, .arr hps⟩
  | obj ms =>
    have hlookup (qs : List (String × Json)) (hq : keyOrder ms = qs) (k : String) :
        (Json.obj qs).get? k = (Json.obj ms).get? k := hq ▸ get?_keyOrder ms k
    cases hq : keyOrder ms with
    | nil =>
      rw [readValue_obj_nil _ _ _ hq] at h
      split at h
      · cases h
      · cases h
        exact .inl ⟨rfl, ReadsBack.of_members (hlookup [] hq) .nil⟩
    | cons q qs =>
      rw [readValue_obj_cons _ _ _ hq] at h
      split at h
      · cases h
      · obtain ⟨rfl, ps, rfl, hps⟩ := hm (room - 1) [] (q :: qs) rest w r (by simp) h
        exact .inl ⟨rfl, ReadsBack.of_members (hlookup _ hq) hps⟩

/-- Every amount of fuel reads written values, items and members back. -/
theorem readBack (fuel : Nat) : ValueReadBack fuel ∧ ItemsReadBack fuel ∧ MembersReadBack fuel := by
  induction fuel with
  | zero =>
    refine ⟨fun _ _ _ _ _ _ h => ?_, fun _ _ _ _ _ _ _ h => ?_, fun _ _ _ _ _ _ _ h => ?_⟩ <;>
      simp [readValue, readItems, readMembers] at h
  | succ fuel ih =>
    obtain ⟨hv, hi, hm⟩ := ih
    exact ⟨valueReadBack_succ hi hm, itemsReadBack_succ hv hi, membersReadBack_succ hv hm⟩

end Induction

/-- A written document that parses parses to what was written, up to the numbers the writer
cannot write exactly. -/
theorem parse_render (v : Json) {w : Json} (h : parse (render v) = .ok w) : ReadsBack v w := by
  unfold parse at h
  obtain ⟨⟨x, rest⟩, h₁, h₂⟩ := bind_eq_ok.mp h
  rw [← List.append_nil (render v).toList] at h₁
  rcases (readBack _).1 128 v [] x rest (fun _ _ h => nomatch h) h₁ with ⟨rfl, hvx⟩ | hs
  · simp only [skipSpace] at h₂
    cases h₂
    exact hvx
  · -- a stray numeral character is trailing text
    obtain ⟨c, r', hskip, -⟩ := hs.skipSpace
    dsimp only at h₂
    rw [hskip] at h₂
    cases h₂

end LoadDispatch.Json
