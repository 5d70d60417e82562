/-!
A double is kept as its 64-bit pattern. Every arithmetic step is exact rational arithmetic followed
by one rounding to the nearest double, ties to even, so the results are the ones IEEE 754 prescribes
without the runtime's floating point.
-/

namespace LoadDispatch

/-- A double, given by its 64-bit pattern. -/
structure Binary64 where
  bits : UInt64
  deriving DecidableEq, Inhabited, Repr

namespace Binary64

def expField (x : Binary64) : Nat := ((x.bits >>> 52) &&& 0x7FF).toNat

def fracField (x : Binary64) : Nat := (x.bits &&& 0xFFFFFFFFFFFFF).toNat

def negative (x : Binary64) : Bool := x.bits >>> 63 == 1

def isFinite (x : Binary64) : Bool := x.expField != 2047

def isZero (x : Binary64) : Bool := x.expField == 0 && x.fracField == 0

def mant (x : Binary64) : Nat :=
  if x.expField = 0 then x.fracField else x.fracField + Nat.pow 2 52

/-- The weight of the last significand bit: a finite magnitude is `mant * 2 ^ exp2`. -/
def exp2 (x : Binary64) : Int :=
  if x.expField = 0 then -1074 else (x.expField : Int) - 1075

def signMask (neg : Bool) : UInt64 := if neg then 0x8000000000000000 else 0

def zero (neg : Bool) : Binary64 := ⟨signMask neg⟩

def infinity (neg : Bool) : Binary64 := ⟨signMask neg ||| 0x7FF0000000000000⟩

def neg (x : Binary64) : Binary64 := ⟨x.bits ^^^ 0x8000000000000000⟩

def scaleRatio (num den : Nat) (k : Int) : Nat × Nat :=
  if 0 ≤ k then (num * Nat.pow 2 k.toNat, den) else (num, den * Nat.pow 2 (-k).toNat)

/-- The floor of the base-two logarithm of `num / den`, for positive `num` and `den`. -/
def floorLog2 (num den : Nat) : Int :=
  let k : Int := (Nat.log2 num : Int) - (Nat.log2 den : Int)
  let (a, b) := scaleRatio den 1 k
  if num * b ≥ a then k else k - 1

/-- Division rounded to the nearest natural, a tie going to the even one. -/
def roundHalfEven (n d : Nat) : Nat :=
  let q := n / d
  let r := n % d
  if 2 * r > d ∨ (2 * r = d ∧ q % 2 = 1) then q + 1 else q

/-- The double nearest to `num / den` with the given sign; a magnitude beyond the largest
double rounds to infinity. -/
def roundRatio (neg : Bool) (num den : Nat) : Binary64 :=
  if num = 0 ∨ den = 0 then zero neg else
  let e0 : Int := max (floorLog2 num den - 52) (-1074)
  let (n, d) := scaleRatio num den (-e0)
  let m0 := roundHalfEven n d
  let (m, e) := if m0 = Nat.pow 2 53 then (Nat.pow 2 52, e0 + 1) else (m0, e0)
  if e > 971 then infinity neg
  else if m < Nat.pow 2 52 then ⟨signMask neg ||| m.toUInt64⟩
  else ⟨signMask neg ||| ((e + 1075).toNat.toUInt64 <<< 52) ||| (m - Nat.pow 2 52).toUInt64⟩

/-- The double nearest to `digits * 10 ^ e` with the given sign. Magnitudes below `10 ^ -400` round
to zero and those of at least `10 ^ 309` to infinity, so huge exponents need no exact arithmetic. -/
def ofScientific (neg : Bool) (digits : Nat) (e : Int) : Binary64 :=
  if digits = 0 then zero neg else
  let k : Int := ((Nat.toDigits 10 digits).length : Int)
  if k + e ≤ -400 then zero neg
  else if 309 ≤ k - 1 + e then infinity neg
  else if 0 ≤ e then roundRatio neg (digits * Nat.pow 10 e.toNat) 1
  else roundRatio neg digits (Nat.pow 10 (-e).toNat)

def magnitude (x : Binary64) : Nat × Nat := scaleRatio x.mant 1 x.exp2

def ofNat (n : Nat) : Binary64 := roundRatio false n 1

def ofInt (i : Int) : Binary64 := roundRatio (i < 0) i.natAbs 1

def mul (x y : Binary64) : Binary64 :=
  let (a, b) := x.magnitude
  let (c, d) := y.magnitude
  roundRatio (x.negative != y.negative) (a * c) (b * d)

def div (x y : Binary64) : Binary64 :=
  let (a, b) := x.magnitude
  let (c, d) := y.magnitude
  roundRatio (x.negative != y.negative) (a * d) (b * c)

def pow10 (k : Nat) : Binary64 := ofNat (Nat.pow 10 k)

/-- Strict order of finite doubles by value: the two zeros are equal. -/
def lt (x y : Binary64) : Bool :=
  let (a, b) := x.magnitude
  let (c, d) := y.magnitude
  match x.isZero && y.isZero, x.negative, y.negative with
  | true, _, _ => false
  | false, false, false => a * d < c * b
  | false, true, true => c * b < a * d
  | false, true, false => true
  | false, false, true => false

def le (x y : Binary64) : Bool := !(lt y x)

end Binary64

end LoadDispatch
