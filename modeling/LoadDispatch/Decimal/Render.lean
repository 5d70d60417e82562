import LoadDispatch.Decimal.Shortest

/-!
The decimal text of a double, from its shortest digits, in one of two styles: `FloatStyle.data` for
numbers inside JSON documents and `FloatStyle.prose` for numbers inside messages.
-/

namespace LoadDispatch

/-- The decisions of one decimal rendering. With the value `0.D * 10 ^ point`, positional notation
is used when `low < point ≤ high`. -/
structure FloatStyle where
  low : Int
  high : Int
  integralSuffix : String
  plusExponent : Bool

namespace FloatStyle

/-- Numbers in JSON documents: positional from `1e-5` up to below `1e16`, an integral value keeps
`.0`, and an exponent always carries its sign. -/
def data : FloatStyle := ⟨-5, 16, ".0", true⟩

/-- Numbers in messages: always positional and never a `.0`. -/
def prose : FloatStyle := ⟨-100000, 100000, "", false⟩

end FloatStyle

namespace Decimal

def digitText (ds : List Nat) : String := String.ofList (ds.map fun d => Char.ofNat ('0'.toNat + d))

def positional (d : Decimal) (integralSuffix : String) : String :=
  let n := d.digits.length
  if d.point ≤ 0 then
    "0." ++ String.ofList (List.replicate (-d.point).toNat '0') ++ digitText d.digits
  else if d.point < n then
    digitText (d.digits.take d.point.toNat) ++ "." ++ digitText (d.digits.drop d.point.toNat)
  else
    digitText d.digits ++ String.ofList (List.replicate (d.point.toNat - n) '0') ++ integralSuffix

def scientific (d : Decimal) (plusExponent : Bool) : String :=
  let e := d.point - 1
  let mantissa := match d.digits with
    | [] => "0"
    | [a] => digitText [a]
    | a :: rest => digitText [a] ++ "." ++ digitText rest
  let sign := if e < 0 then "-" else if plusExponent then "+" else ""
  mantissa ++ "e" ++ sign ++ toString e.natAbs

/-- The text of a decimal in a style. -/
def render (s : FloatStyle) (d : Decimal) : String :=
  if s.low < d.point ∧ d.point ≤ s.high then positional d s.integralSuffix
  else scientific d s.plusExponent

end Decimal

namespace Binary64

def render (s : FloatStyle) (x : Binary64) : String :=
  let sign := if x.negative then "-" else ""
  if x.isZero then sign ++ "0" ++ s.integralSuffix
  else sign ++ x.shortest.render s

def dataText (x : Binary64) : String := x.render FloatStyle.data

def proseText (x : Binary64) : String := x.render FloatStyle.prose

end Binary64

end LoadDispatch
