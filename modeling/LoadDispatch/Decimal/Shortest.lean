import LoadDispatch.Decimal.Binary64

/-!
The shortest decimal digits of a double. Grids `c * 10 ^ j` are tried coarsest first: the first with
a point in the double's rounding interval gives the fewest digits, and of its points the one nearest
the double is taken, an exact tie going to the even point.
-/

namespace LoadDispatch

/-- Digits `d₁ … dₙ` (the first and the last not zero) and a point position `point`: the value is
`0.d₁…dₙ * 10 ^ point`. -/
structure Decimal where
  digits : List Nat
  point : Int
  deriving DecidableEq, Repr

namespace Decimal

def digitsOf (n : Nat) : List Nat := (Nat.toDigits 10 n).map fun c => c.toNat - '0'.toNat

def trimZeros (ds : List Nat) : List Nat := (ds.reverse.dropWhile (· == 0)).reverse

def ofScaled (c : Nat) (j : Int) : Decimal :=
  let ds := digitsOf c
  ⟨trimZeros ds, j + ds.length⟩

end Decimal

namespace Binary64

def log10Nat (n : Nat) : Nat := (Nat.toDigits 10 n).length - 1

def floorLog10 (num den : Nat) : Int :=
  if num ≥ den then (log10Nat (num / den) : Int)
  else
    let t := log10Nat (den / num)
    if num * Nat.pow 10 t ≥ den then -(t : Int) else -((t : Int) + 1)

/-- The grid `10 ^ j` against the binary scale `2 ^ p`: the pair `(g, h)` with
`c * 10 ^ j ≤ x * 2 ^ p ↔ c * g ≤ x * h`. -/
def gridScale (j p : Int) : Nat × Nat :=
  (Nat.pow 10 j.toNat * Nat.pow 2 (-p).toNat, Nat.pow 2 p.toNat * Nat.pow 10 (-j).toNat)

/-- The point of grid `10 ^ j` chosen for a value `4m * 2 ^ p` whose rounding interval is
`[lo * 2 ^ p, hi * 2 ^ p]` (ends included when `closed`), if the grid has one there. -/
def gridPoint (m lo hi : Nat) (closed : Bool) (p j : Int) : Option Nat :=
  let (g, h) := gridScale j p
  let cmin := if closed then (lo * h + g - 1) / g else lo * h / g + 1
  let cmax := if closed || (hi * h) % g != 0 then hi * h / g else hi * h / g - 1
  if cmin ≤ cmax then
    let near := roundHalfEven (4 * m * h) g
    some (if near < cmin then cmin else if near > cmax then cmax else near)
  else none

def firstGrid (m lo hi : Nat) (closed : Bool) (p : Int) : Nat → Int → Option Decimal
  | 0, _ => none
  | fuel + 1, j =>
    match gridPoint m lo hi closed p j with
    | some c => some (Decimal.ofScaled c j)
    | none => firstGrid m lo hi closed p fuel (j - 1)

/-- The shortest digits that read back as this finite non-zero double, nearest of those. -/
def shortest (x : Binary64) : Decimal :=
  let m := x.mant
  let p := x.exp2 - 2
  -- the double below is nearer when the significand is a power of two above the subnormals
  let lo := if x.fracField = 0 ∧ x.expField > 1 then 4 * m - 1 else 4 * m - 2
  let hi := 4 * m + 2
  let (n, d) := scaleRatio (4 * m) 1 p
  let top := floorLog10 n d + 1
  (firstGrid m lo hi (m % 2 == 0) p 20 top).getD (Decimal.ofScaled m 0)

end Binary64

end LoadDispatch
