import LoadDispatch.Json.Reader
import LoadDispatch.Json.Writer
import Mathlib.Data.List.TakeDrop
import Mathlib.Data.List.TakeWhile

/-!
Numbers in JSON text. The writer prints every number as a numeral and the reader takes a prefix of
numeral characters, so a number written inside a document is read up to its end; a natural that fits
64 bits reads back as itself.
-/
namespace LoadDispatch.Json

theorem bind_eq_ok {ε α β : Type} {x : Except ε α} {f : α → Except ε β} {b : β} :
    x >>= f = .ok b ↔ ∃ a, x = .ok a ∧ f a = .ok b := by
  cases x <;> simp [bind, Except.bind]

/-- The characters a numeral is made of. -/
def isNumeralChar (c : Char) : Bool :=
  c.isDigit || c == '.' || c == 'e' || c == 'E' || c == '+' || c == '-'

theorem isNumeralChar_of_isDigit {c : Char} (h : c.isDigit = true) : isNumeralChar c = true := by
  simp [isNumeralChar, h]

section Reading

/-- `cs` is `r` behind a prefix of numeral characters. -/
def NumeralPrefix (cs r : List Char) : Prop := ∃ p, cs = p ++ r ∧ ∀ c ∈ p, isNumeralChar c = true

theorem NumeralPrefix.refl (cs : List Char) : NumeralPrefix cs cs := ⟨[], rfl, by simp⟩

theorem NumeralPrefix.trans {a b c : List Char} (h₁ : NumeralPrefix a b) (h₂ : NumeralPrefix b c) :
    NumeralPrefix a c := by
  obtain ⟨p, rfl, hp⟩ := h₁
  obtain ⟨q, rfl, hq⟩ := h₂
  refine ⟨p ++ q, by simp, fun c hc => ?_⟩
  rcases List.mem_append.mp hc with hc | hc
  · exact hp c hc
  · exact hq c hc

theorem NumeralPrefix.cons {c : Char} {cs r : List Char} (hc : isNumeralChar c = true)
    (h : NumeralPrefix cs r) : NumeralPrefix (c :: cs) r := by
  obtain ⟨p, rfl, hp⟩ := h
  exact ⟨c :: p, rfl, by simpa [hc] using hp⟩

theorem spanDigits_numeral (cs : List Char) : NumeralPrefix cs (spanDigits cs).2 := by
  refine ⟨(spanDigits cs).1, by simp [spanDigits, List.span_eq_takeWhile_dropWhile], ?_⟩
  intro c hc
  simp only [spanDigits, List.span_eq_takeWhile_dropWhile] at hc
  exact isNumeralChar_of_isDigit (List.mem_takeWhile_imp hc)

theorem readIntDigits_numeral {cs ds r : List Char} (h : readIntDigits cs = .ok (ds, r)) :
    NumeralPrefix cs r := by
  unfold readIntDigits at h
  split at h
  · split at h
    · split at h
      · cases h
      · cases h
        exact (NumeralPrefix.refl _).cons (by decide)
    · cases h
      exact (NumeralPrefix.refl _).cons (by decide)
  · rename_i d rest _
    split at h
    · have hspan := spanDigits_numeral (d :: rest)
      rw [Except.ok.inj h] at hspan
      exact hspan
    · cases h
  · cases h

theorem readFraction_numeral {cs r : List Char} {f : Option (List Char)}
    (h : readFraction cs = .ok (f, r)) : NumeralPrefix cs r := by
  unfold readFraction at h
  split at h
  · rename_i rest
    split at h
    · cases h
    · cases h
    · rename_i heq
      cases h
      have hspan := spanDigits_numeral rest
      rw [heq] at hspan
      exact hspan.cons (by decide)
  · cases h
    exact NumeralPrefix.refl _

theorem readExponent_numeral {cs r : List Char} {x : Option (Bool × List Char)}
    (h : readExponent cs = .ok (x, r)) : NumeralPrefix cs r := by
  unfold readExponent at h
  split at h
  · rename_i e rest
    split at h
    · rename_i he
      have hnum : isNumeralChar e = true := by
        simp only [Bool.or_eq_true, beq_iff_eq] at he
        rcases he with rfl | rfl <;> decide
      split at h
      rename_i up rest' hsign
      have hsignp : NumeralPrefix rest rest' := by
        split at hsign <;> cases hsign
        · exact (NumeralPrefix.refl _).cons (by decide)
        · exact (NumeralPrefix.refl _).cons (by decide)
        · exact NumeralPrefix.refl _
      split at h
      · cases h
      · cases h
      · rename_i heq
        cases h
        have hspan := spanDigits_numeral rest'
        rw [heq] at hspan
        exact NumeralPrefix.cons hnum (hsignp.trans hspan)
    · cases h
      exact NumeralPrefix.refl _
  · cases h
    exact NumeralPrefix.refl _

/-- A number is read from a prefix of numeral characters. -/
theorem readNumber_numeral {neg : Bool} {cs r : List Char} {w : Json}
    (h : readNumber neg cs = .ok (w, r)) : NumeralPrefix cs r := by
  unfold readNumber at h
  obtain ⟨⟨ds, r₁⟩, h₁, h⟩ := bind_eq_ok.mp h
  obtain ⟨⟨f, r₂⟩, h₂, h⟩ := bind_eq_ok.mp h
  obtain ⟨⟨x, r₃⟩, h₃, h⟩ := bind_eq_ok.mp h
  obtain ⟨n, -, h⟩ := bind_eq_ok.mp h
  cases h
  exact (readIntDigits_numeral h₁).trans ((readFraction_numeral h₂).trans (readExponent_numeral h₃))

theorem readNumber_num {neg : Bool} {cs r : List Char} {w : Json}
    (h : readNumber neg cs = .ok (w, r)) : ∃ y, w = .num y := by
  unfold readNumber at h
  obtain ⟨_, -, h⟩ := bind_eq_ok.mp h
  obtain ⟨_, -, h⟩ := bind_eq_ok.mp h
  obtain ⟨_, -, h⟩ := bind_eq_ok.mp h
  obtain ⟨y, -, h⟩ := bind_eq_ok.mp h
  cases h
  exact ⟨y, rfl⟩

/-- What may follow a value inside a document: nothing, a comma or a closing bracket. -/
def Follows (rest : List Char) : Prop := ∀ c r, rest = c :: r → c = ',' ∨ c = ']' ∨ c = '}'

def Stray (rest : List Char) : Prop := ∃ c r, rest = c :: r ∧ isNumeralChar c = true

theorem Follows.not_numeral {rest : List Char} (h : Follows rest) :
    ∀ c r, rest = c :: r → isNumeralChar c = false := by
  intro c r hc
  rcases h c r hc with rfl | rfl | rfl <;> decide

theorem Follows.not_digit {rest : List Char} (h : Follows rest) :
    ∀ c r, rest = c :: r → c.isDigit = false := by
  intro c r hc
  rcases h c r hc with rfl | rfl | rfl <;> decide

/-- Reading a numeral followed by a comma, a bracket or the end stops at its end, or leaves a
numeral character behind. -/
theorem NumeralPrefix.of_follows {t rest r : List Char} (ht : ∀ c ∈ t, isNumeralChar c = true)
    (hr : Follows rest) (h : NumeralPrefix (t ++ rest) r) : r = rest ∨ Stray r := by
  obtain ⟨p, hpr, hp⟩ := h
  rcases List.append_eq_append_iff.mp hpr with ⟨a, rfl, hrest⟩ | ⟨c, rfl, rfl⟩
  · -- the read went past the numeral: only into nothing
    cases a with
    | nil => exact .inl (by simpa using hrest.symm)
    | cons x a =>
      have hx := hp x (by simp)
      rw [hr.not_numeral x (a ++ r) hrest] at hx
      cases hx
  · cases c with
    | nil => exact .inl (by simp)
    | cons x c => exact .inr ⟨x, c ++ rest, rfl, ht x (by simp)⟩

end Reading

section Naturals

/-- The natural that decimal digits stand for, read after `acc`. -/
def digitsValue (acc : Nat) (ds : List Char) : Nat :=
  ds.foldl (fun a c => a * 10 + Number.digitValue c) acc

theorem le_digitsValue (ds : List Char) (acc : Nat) : acc ≤ digitsValue acc ds := by
  induction ds generalizing acc with
  | nil => exact Nat.le_refl _
  | cons c ds ih =>
    have := ih (acc * 10 + Number.digitValue c)
    simp only [digitsValue, List.foldl_cons] at this ⊢
    omega

theorem gatherInt_of_le (ds : List Char) (sig : Nat) (exp : Int)
    (h : digitsValue sig ds ≤ Number.maxU64) :
    Number.gatherInt ds (sig, exp, false) = (digitsValue sig ds, exp, false) := by
  induction ds generalizing sig with
  | nil => rfl
  | cons c ds ih =>
    have hstep : sig * 10 + Number.digitValue c ≤ Number.maxU64 :=
      Nat.le_trans (le_digitsValue ds _) h
    simp only [Number.gatherInt, Bool.not_false, hstep, decide_true, Bool.and_self, if_true]
    exact ih _ h

theorem digitValue_digitChar : ∀ d, d < 10 → Number.digitValue (Nat.digitChar d) = d := by decide

theorem digitsValue_toDigits (n : Nat) : digitsValue 0 (Nat.toDigits 10 n) = n := by
  induction n using Nat.strongRecOn with
  | ind n ih =>
    by_cases hn : n < 10
    · rw [Nat.toDigits_of_lt_base hn]
      simp [digitsValue, digitValue_digitChar n hn]
    · -- the digits of `n / 10`, then the last digit
      have hq : 0 < n / 10 := by omega
      have hsplit := Nat.toDigits_append_toDigits (b := 10) (by omega) hq (Nat.mod_lt n (by omega))
      rw [Nat.div_add_mod] at hsplit
      rw [← hsplit, Nat.toDigits_of_lt_base (Nat.mod_lt n (by omega))]
      have hq' := ih (n / 10) (by omega)
      simp only [digitsValue, List.foldl_append, List.foldl_cons, List.foldl_nil] at hq' ⊢
      rw [hq', digitValue_digitChar _ (Nat.mod_lt n (by omega))]
      omega

theorem toDigits_isDigit (n : Nat) : ∀ c ∈ Nat.toDigits 10 n, c.isDigit = true :=
  fun _ hc => Nat.isDigit_of_mem_toDigits (by decide) (by decide) hc

theorem spanDigits_append {ds rest : List Char} (hds : ∀ c ∈ ds, c.isDigit = true)
    (hr : ∀ c r, rest = c :: r → c.isDigit = false) : spanDigits (ds ++ rest) = (ds, rest) := by
  have htake : rest.takeWhile Char.isDigit = [] := by
    cases rest with
    | nil => rfl
    | cons c r => simp [hr c r rfl]
  have hdrop : rest.dropWhile Char.isDigit = rest := by
    cases rest with
    | nil => rfl
    | cons c r => simp [hr c r rfl]
  simp [spanDigits, List.span_eq_takeWhile_dropWhile, List.takeWhile_append_of_pos hds,
    List.dropWhile_append_of_pos hds, htake, hdrop]

theorem readFraction_of_follows {rest : List Char} (h : Follows rest) :
    readFraction rest = .ok (none, rest) := by
  unfold readFraction
  split
  · rename_i r
    rcases h '.' r rfl with h | h | h <;> cases h
  · rfl

theorem readExponent_of_follows {rest : List Char} (h : Follows rest) :
    readExponent rest = .ok (none, rest) := by
  unfold readExponent
  split
  · rename_i e r
    rcases h e r rfl with rfl | rfl | rfl <;> rfl
  · rfl

theorem readIntDigits_toDigits {n : Nat} {rest ds r : List Char} (hr : Follows rest)
    (h : readIntDigits (Nat.toDigits 10 n ++ rest) = .ok (ds, r)) :
    ds = Nat.toDigits 10 n ∧ r = rest := by
  have hdig := toDigits_isDigit n
  rcases hds : Nat.toDigits 10 n with _ | ⟨c, cs⟩
  · exact absurd hds Nat.toDigits_ne_nil
  rw [hds] at h hdig
  by_cases h0 : c = '0'
  · subst h0
    cases cs with
    | nil =>
      cases rest with
      | nil =>
        simp [readIntDigits] at h
        exact ⟨h.1.symm, h.2⟩
      | cons d rest' =>
        have hd := hr.not_digit d rest' rfl
        simp [readIntDigits, hd] at h
        exact ⟨h.1.symm, h.2.symm⟩
    | cons d cs' =>
      have hd := hdig d (by simp)
      simp [readIntDigits, hd] at h
  · have hc := hdig c (by simp)
    have hspan := spanDigits_append hdig hr.not_digit
    simp only [List.cons_append] at hspan ⊢
    simp [readIntDigits, hc, hspan] at h
    exact ⟨h.1.symm, h.2.symm⟩

/-- A natural that fits 64 bits, written inside a document, is read back as itself. -/
theorem readNumber_toDigits {n : Nat} {rest r : List Char} {w : Json} (hn : n ≤ Number.maxU64)
    (hr : Follows rest) (h : readNumber false (Nat.toDigits 10 n ++ rest) = .ok (w, r)) :
    w = .num (.nat n) ∧ r = rest := by
  have hgather : Number.gatherInt (Nat.toDigits 10 n) (0, 0, false) = (n, 0, false) := by
    have := gatherInt_of_le (Nat.toDigits 10 n) 0 0 (by rw [digitsValue_toDigits]; exact hn)
    rwa [digitsValue_toDigits] at this
  unfold readNumber at h
  obtain ⟨⟨ds, r₁⟩, h₁, h₂⟩ := bind_eq_ok.mp h
  obtain ⟨rfl, rfl⟩ := readIntDigits_toDigits hr h₁
  simp only [readFraction_of_follows hr, readExponent_of_follows hr, bind, Except.bind,
    Number.ofDigits, hgather] at h₂
  cases h₂
  exact ⟨rfl, rfl⟩

end Naturals

section Writing

/-- Text led by a digit and made of numeral characters. -/
def DigitLed (t : List Char) : Prop :=
  ∃ c cs, t = c :: cs ∧ c.isDigit = true ∧ ∀ d ∈ t, isNumeralChar d = true

/-- The text of a JSON number: digit-led, or a minus sign and then digit-led. -/
def Numeral (t : List Char) : Prop := DigitLed t ∨ ∃ u, t = '-' :: u ∧ DigitLed u

theorem DigitLed.append {t u : List Char} (ht : DigitLed t) (hu : ∀ d ∈ u, isNumeralChar d = true) :
    DigitLed (t ++ u) := by
  obtain ⟨c, cs, rfl, hc, hall⟩ := ht
  refine ⟨c, cs ++ u, rfl, hc, fun d hd => ?_⟩
  rcases List.mem_append.mp hd with hd | hd
  · exact hall d hd
  · exact hu d hd

theorem digitLed_of_digits {t : List Char} (hne : t ≠ []) (h : ∀ d ∈ t, d.isDigit = true) :
    DigitLed t := by
  obtain ⟨c, cs, rfl⟩ := List.exists_cons_of_ne_nil hne
  exact ⟨c, cs, rfl, h c (by simp), fun d hd => isNumeralChar_of_isDigit (h d hd)⟩

theorem toDigits_digitLed (n : Nat) : DigitLed (Nat.toDigits 10 n) :=
  digitLed_of_digits Nat.toDigits_ne_nil (toDigits_isDigit n)

theorem numeral_toDigits (n : Nat) : ∀ c ∈ Nat.toDigits 10 n, isNumeralChar c = true :=
  fun _ hc => isNumeralChar_of_isDigit (toDigits_isDigit n _ hc)

theorem numeral_zeros (n : Nat) : ∀ c ∈ List.replicate n '0', isNumeralChar c = true := by
  intro c hc
  rw [List.eq_of_mem_replicate hc]
  decide

theorem isDigit_digitChar : ∀ d, d < 10 → (Char.ofNat ('0'.toNat + d)).isDigit = true := by decide

theorem digitText_isDigit {ds : List Nat} (h : ∀ d ∈ ds, d < 10) :
    ∀ c ∈ (Decimal.digitText ds).toList, c.isDigit = true := by
  intro c hc
  simp only [Decimal.digitText, String.toList_ofList, List.mem_map] at hc
  obtain ⟨d, hd, rfl⟩ := hc
  exact isDigit_digitChar d (h d hd)

theorem numeral_digitText {ds : List Nat} (h : ∀ d ∈ ds, d < 10) :
    ∀ c ∈ (Decimal.digitText ds).toList, isNumeralChar c = true :=
  fun c hc => isNumeralChar_of_isDigit (digitText_isDigit h c hc)

theorem numeral_point_digitText {ds : List Nat} (h : ∀ d ∈ ds, d < 10) :
    ∀ c ∈ '.' :: (Decimal.digitText ds).toList, isNumeralChar c = true := by
  intro c hc
  rcases List.mem_cons.mp hc with rfl | hc
  · decide
  · exact numeral_digitText h c hc

theorem digitLed_digitText {ds : List Nat} (hne : ds ≠ []) (h : ∀ d ∈ ds, d < 10) :
    DigitLed (Decimal.digitText ds).toList :=
  digitLed_of_digits (by simpa [Decimal.digitText] using hne) (digitText_isDigit h)

theorem digitValue_lt {c : Char} (h : c.isDigit = true) : c.toNat - '0'.toNat < 10 := by
  simp only [Char.isDigit, Bool.and_eq_true, decide_eq_true_eq, ge_iff_le,
    UInt32.le_iff_toNat_le] at h
  have h9 : ('9' : Char).val.toNat = 57 := rfl
  have h0 : ('0' : Char).toNat = 48 := rfl
  rw [h9] at h
  rw [h0, Char.toNat]
  omega

theorem digitsOf_lt (n : Nat) : ∀ d ∈ Decimal.digitsOf n, d < 10 := by
  intro d hd
  simp only [Decimal.digitsOf, List.mem_map] at hd
  obtain ⟨c, hc, rfl⟩ := hd
  exact digitValue_lt (toDigits_isDigit n c hc)

theorem ofScaled_digits_lt (c : Nat) (j : Int) : ∀ d ∈ (Decimal.ofScaled c j).digits, d < 10 := by
  intro d hd
  simp only [Decimal.ofScaled, Decimal.trimZeros, List.mem_reverse] at hd
  exact digitsOf_lt c d (List.mem_reverse.mp (List.dropWhile_subset _ hd))

theorem firstGrid_ofScaled {m lo hi : Nat} {closed : Bool} {p : Int} :
    ∀ {fuel : Nat} {j : Int} {d : Decimal}, Binary64.firstGrid m lo hi closed p fuel j = some d →
      ∃ c j', d = Decimal.ofScaled c j'
  | 0, _, _, h => by simp [Binary64.firstGrid] at h
  | fuel + 1, j, d, h => by
    unfold Binary64.firstGrid at h
    split at h
    · cases h
      exact ⟨_, _, rfl⟩
    · exact firstGrid_ofScaled h

/-- The shortest digits of a double are decimal digits. -/
theorem shortest_digits_lt (x : Binary64) : ∀ d ∈ x.shortest.digits, d < 10 := by
  unfold Binary64.shortest
  simp only
  rcases h : Binary64.firstGrid _ _ _ _ _ 20 _ with _ | d
  · exact ofScaled_digits_lt _ _
  · obtain ⟨c, j, rfl⟩ := firstGrid_ofScaled h
    exact ofScaled_digits_lt c j

theorem positional_digitLed (d : Decimal) (h : ∀ x ∈ d.digits, x < 10) :
    DigitLed (Decimal.positional d ".0").toList := by
  unfold Decimal.positional
  by_cases h0 : d.point ≤ 0
  · -- a zero, the point, zeros and the digits
    rw [if_pos h0]
    have hz : DigitLed ['0'] := digitLed_of_digits (by simp) (by simp)
    have := hz.append (u := '.' :: (List.replicate (-d.point).toNat '0' ++
      (Decimal.digitText d.digits).toList)) (by
        intro c hc
        rcases List.mem_cons.mp hc with rfl | hc
        · decide
        rcases List.mem_append.mp hc with hc | hc
        · exact numeral_zeros _ c hc
        · exact numeral_digitText h c hc)
    simpa using this
  rw [if_neg h0]
  by_cases hn : d.point < d.digits.length
  · -- digits, the point, digits
    rw [if_pos hn]
    have hne : d.digits.take d.point.toNat ≠ [] := by
      have hdig : d.digits ≠ [] := by
        intro he
        simp only [he, List.length_nil] at hn
        omega
      simp only [ne_eq, List.take_eq_nil_iff, not_or]
      exact ⟨by omega, hdig⟩
    have := (digitLed_digitText hne (fun x hx => h x (List.mem_of_mem_take hx))).append
      (@numeral_point_digitText (d.digits.drop d.point.toNat)
        (fun x hx => h x (List.mem_of_mem_drop hx)))
    simpa using this
  · -- the digits, zeros up to the point and `.0`
    rw [if_neg hn]
    have htail : ∀ c ∈ List.replicate (d.point.toNat - d.digits.length) '0' ++ ['.', '0'],
        isNumeralChar c = true := by
      intro c hc
      rcases List.mem_append.mp hc with hc | hc
      · exact numeral_zeros _ c hc
      · simp only [List.mem_cons, List.not_mem_nil, or_false] at hc
        rcases hc with rfl | rfl <;> decide
    cases hds : d.digits with
    | nil =>
      have hz : DigitLed (List.replicate d.point.toNat '0') :=
        digitLed_of_digits (by simp; omega)
          (fun c hc => by rw [List.eq_of_mem_replicate hc]; decide)
      have := hz.append (u := ['.', '0']) (by simp [isNumeralChar])
      simpa [hds, Decimal.digitText] using this
    | cons a rest =>
      have := (@digitLed_digitText (a :: rest) (by simp) (hds ▸ h)).append htail
      simpa [hds] using this

theorem scientific_digitLed (d : Decimal) (h : ∀ x ∈ d.digits, x < 10) (plus : Bool) :
    DigitLed (Decimal.scientific d plus).toList := by
  unfold Decimal.scientific
  have hexp : ∀ sign : String, (∀ c ∈ sign.toList, isNumeralChar c = true) →
      ∀ c ∈ 'e' :: (sign.toList ++ Nat.toDigits 10 (d.point - 1).natAbs),
        isNumeralChar c = true := by
    intro sign hsign c hc
    rcases List.mem_cons.mp hc with rfl | hc
    · decide
    rcases List.mem_append.mp hc with hc | hc
    · exact hsign c hc
    · exact numeral_toDigits _ c hc
  have hsign : ∀ c ∈ (if d.point - 1 < 0 then "-" else if plus then "+" else "").toList,
      isNumeralChar c = true := by
    split
    · simp [isNumeralChar]
    · split
      · simp [isNumeralChar]
      · simp
  have htail := hexp _ hsign
  simp only [String.toList_append, toString, Nat.repr, String.toList_ofList]
  split
  · have := (digitLed_of_digits (t := ['0']) (by simp) (by simp)).append htail
    simpa using this
  · rename_i a hds
    have := (@digitLed_digitText [a] (by simp) (hds ▸ h)).append htail
    simpa using this
  · rename_i a rest _ hds
    have ha : ∀ x ∈ [a], x < 10 := fun x hx => h x (by rw [hds]; simp_all)
    have hrest : ∀ x ∈ rest, x < 10 := fun x hx => h x (by rw [hds]; simp [hx])
    have := ((digitLed_digitText (by simp) ha).append (numeral_point_digitText hrest)).append htail
    simpa using this

theorem decimal_render_digitLed (d : Decimal) (h : ∀ x ∈ d.digits, x < 10) :
    DigitLed (Decimal.render FloatStyle.data d).toList := by
  unfold Decimal.render
  split
  · exact positional_digitLed d h
  · exact scientific_digitLed d h _

theorem Numeral.signed {t : List Char} (neg : Bool) (h : DigitLed t) :
    Numeral ((if neg then "-" else "").toList ++ t) := by
  cases neg
  · exact .inl (by simpa using h)
  · exact .inr ⟨t, by simp, h⟩

theorem dataText_numeral (x : Binary64) : Numeral x.dataText.toList := by
  unfold Binary64.dataText Binary64.render
  by_cases hzero : x.isZero = true
  · have hz : DigitLed ['0', '.', '0'] :=
      (digitLed_of_digits (t := ['0']) (by simp) (by simp)).append (u := ['.', '0'])
        (by simp [isNumeralChar])
    have := Numeral.signed x.negative hz
    simp only [hzero, if_true, String.toList_append]
    simpa [FloatStyle.data] using this
  · have := Numeral.signed x.negative (decimal_render_digitLed x.shortest (shortest_digits_lt x))
    simp only [hzero, Bool.false_eq_true, if_false, String.toList_append]
    exact this

/-- The writer prints every number as a numeral. -/
theorem text_numeral (n : Number) : Numeral n.text.toList := by
  cases n with
  | nat n => exact .inl (by simpa [Number.text, toString, Nat.repr] using toDigits_digitLed n)
  | negInt i =>
    cases i with
    | ofNat m =>
      exact .inl (by simpa [Number.text, toString, Int.repr, Nat.repr] using toDigits_digitLed m)
    | negSucc m =>
      exact .inr ⟨_, by simp [Number.text, toString, Int.repr, Nat.repr], toDigits_digitLed (m + 1)⟩
  | float x => exact dataText_numeral x

theorem Numeral.numeral {t : List Char} (h : Numeral t) : ∀ c ∈ t, isNumeralChar c = true := by
  rcases h with ⟨-, -, -, -, hall⟩ | ⟨u, rfl, ⟨-, -, -, -, hall⟩⟩
  · exact hall
  · intro c hc
    rcases List.mem_cons.mp hc with rfl | hc
    · decide
    · exact hall c hc

end Writing

end LoadDispatch.Json
