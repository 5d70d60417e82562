import LoadDispatch.Json.Value

/-!
A strict JSON reader with the limits of a typical streaming reader: at most 127 open containers, no
raw control characters in strings, and paired surrogate escapes. An integer keeps its kind when it
fits 64 bits; any other number is gathered into a 64-bit significand and scaled by a power of ten,
two roundings that can miss the nearest double by its last bit.
-/

namespace LoadDispatch

/-- Why a text is not a JSON document. -/
inductive ReadError where
  | endOfInput
  | unexpected (c : Char)
  | controlInString
  | badEscape
  | loneSurrogate
  | tooDeep
  | outOfRange
  | trailing
  deriving DecidableEq, Repr

namespace ReadError

def message : ReadError → String
  | .endOfInput => "EOF while parsing a value"
  | .unexpected c => "unexpected character " ++ String.singleton c
  | .controlInString => "control character found while parsing a string"
  | .badEscape => "invalid escape"
  | .loneSurrogate => "lone surrogate in hex escape"
  | .tooDeep => "recursion limit exceeded"
  | .outOfRange => "number out of range"
  | .trailing => "trailing characters"

end ReadError

namespace Number

def maxU64 : Nat := Nat.pow 2 64 - 1

def maxI32 : Int := 2147483647

def clampI32 (i : Int) : Int := max (-2147483648) (min maxI32 i)

def digitValue (c : Char) : Nat := c.toNat - '0'.toNat

/-- Gathers integer digits into a 64-bit significand: once a digit would overflow it, it and
every later integer digit only raise the decimal exponent. -/
def gatherInt : List Char → Nat × Int × Bool → Nat × Int × Bool
  | [], st => st
  | c :: rest, (sig, exp, full) =>
    let d := digitValue c
    if !full && sig * 10 + d ≤ maxU64 then gatherInt rest (sig * 10 + d, exp, false)
    else gatherInt rest (sig, exp + 1, true)

/-- Gathers fraction digits into the significand, each lowering the exponent, until one would
overflow it; that digit and the rest are dropped. -/
def gatherFrac : List Char → Nat × Int → Nat × Int
  | [], st => st
  | c :: rest, (sig, exp) =>
    let d := digitValue c
    if sig * 10 + d ≤ maxU64 then gatherFrac rest (sig * 10 + d, exp - 1) else (sig, exp)

def gatherExp : List Char → Int → Option Int
  | [], e => some e
  | c :: rest, e =>
    let e' := e * 10 + digitValue c
    if e' > maxI32 then none else gatherExp rest e'

/-- Scales a double by `10 ^ exponent` as the reader does: a positive power that overflows is an
error, and an exponent beyond the table divides by `10 ^ 308` step by step. -/
def scaleByTen : Nat → Binary64 → Int → Except ReadError Binary64
  | 0, f, _ => .ok f
  | fuel + 1, f, exponent =>
    if exponent.natAbs ≤ 308 then
      if 0 ≤ exponent then
        let g := f.mul (Binary64.pow10 exponent.toNat)
        if g.isFinite then .ok g else .error .outOfRange
      else .ok (f.div (Binary64.pow10 exponent.natAbs))
    else if f.isZero then .ok f
    else if 0 ≤ exponent then .error .outOfRange
    else scaleByTen fuel (f.div (Binary64.pow10 308)) (exponent + 308)

def ofParts (negative : Bool) (sig : Nat) (exponent : Int) : Except ReadError Binary64 := do
  let f ← scaleByTen 8 (Binary64.ofNat sig) exponent
  return if negative then f.neg else f

def ofDigits (negative : Bool) (intDigits : List Char) (frac : Option (List Char))
    (expo : Option (Bool × List Char)) : Except ReadError Number :=
  let (sig, exp0, full) := gatherInt intDigits (0, 0, false)
  match frac, expo, full with
  | none, none, false =>
    if !negative then .ok (.nat sig)
    else if sig = 0 then .ok (.float (Binary64.zero true))
    else if sig ≤ Nat.pow 2 63 then .ok (.negInt (-(sig : Int)))
    else .ok (.float (Binary64.ofNat sig).neg)
  | _, _, _ =>
    let (sig, exp1) := match frac with
      | some ds => gatherFrac ds (sig, exp0)
      | none => (sig, exp0)
    match expo with
    | none => .float <$> ofParts negative sig exp1
    | some (up, ds) =>
      match gatherExp ds 0 with
      | some e =>
        let final := clampI32 (if up then exp1 + e else exp1 - e)
        .float <$> ofParts negative sig final
      | none =>
        if sig != 0 && up then .error .outOfRange
        else .ok (.float (Binary64.zero negative))

end Number

namespace Json

def isSpace (c : Char) : Bool := c == ' ' || c == '\t' || c == '\n' || c == '\r'

def skipSpace : List Char → List Char
  | c :: rest => if isSpace c then skipSpace rest else c :: rest
  | [] => []

def hexValue (c : Char) : Option Nat :=
  if '0' ≤ c ∧ c ≤ '9' then some (c.toNat - '0'.toNat)
  else if 'a' ≤ c ∧ c ≤ 'f' then some (c.toNat - 'a'.toNat + 10)
  else if 'A' ≤ c ∧ c ≤ 'F' then some (c.toNat - 'A'.toNat + 10)
  else none

def hex4 (a b c d : Char) : Option Nat := do
  return (← hexValue a) * 4096 + (← hexValue b) * 256 + (← hexValue c) * 16 + (← hexValue d)

def simpleEscape : Char → Option Char
  | '"' => some '"'
  | '\\' => some '\\'
  | '/' => some '/'
  | 'b' => some (Char.ofNat 8)
  | 'f' => some (Char.ofNat 12)
  | 'n' => some '\n'
  | 'r' => some '\r'
  | 't' => some '\t'
  | _ => none

def readString (acc : List Char) : List Char → Except ReadError (String × List Char)
  | [] => .error .endOfInput
  | '"' :: rest => .ok (String.ofList acc.reverse, rest)
  | '\\' :: 'u' :: a :: b :: c :: d :: rest =>
    match hex4 a b c d with
    | none => .error .badEscape
    | some hi =>
      if 0xD800 ≤ hi ∧ hi < 0xDC00 then
        match rest with
        | '\\' :: 'u' :: e :: f :: g :: h :: rest' =>
          match hex4 e f g h with
          | some lo =>
            if 0xDC00 ≤ lo ∧ lo < 0xE000 then
              readString (Char.ofNat (0x10000 + (hi - 0xD800) * 0x400 + (lo - 0xDC00)) :: acc) rest'
            else .error .loneSurrogate
          | none => .error .badEscape
        | _ => .error .loneSurrogate
      else if 0xDC00 ≤ hi ∧ hi < 0xE000 then .error .loneSurrogate
      else readString (Char.ofNat hi :: acc) rest
  | '\\' :: e :: rest =>
    match simpleEscape e with
    | some c => readString (c :: acc) rest
    | none => .error .badEscape
  | ['\\'] => .error .endOfInput
  | c :: rest => if c.toNat < 0x20 then .error .controlInString else readString (c :: acc) rest

def spanDigits (cs : List Char) : List Char × List Char := cs.span Char.isDigit

def readIntDigits : List Char → Except ReadError (List Char × List Char)
  | '0' :: rest =>
    match rest with
    | d :: _ => if d.isDigit then .error (.unexpected d) else .ok (['0'], rest)
    | [] => .ok (['0'], rest)
  | d :: rest => if d.isDigit then .ok (spanDigits (d :: rest)) else .error (.unexpected d)
  | [] => .error .endOfInput

def readFraction : List Char → Except ReadError (Option (List Char) × List Char)
  | '.' :: rest =>
    match spanDigits rest with
    | ([], c :: _) => .error (.unexpected c)
    | ([], []) => .error .endOfInput
    | (ds, rest') => .ok (some ds, rest')
  | rest => .ok (none, rest)

def readExponent : List Char → Except ReadError (Option (Bool × List Char) × List Char)
  | e :: rest =>
    if e == 'e' || e == 'E' then
      let (up, rest') := match rest with
        | '+' :: r => (true, r)
        | '-' :: r => (false, r)
        | r => (true, r)
      match spanDigits rest' with
      | ([], c :: _) => .error (.unexpected c)
      | ([], []) => .error .endOfInput
      | (ds, rest'') => .ok (some (up, ds), rest'')
    else .ok (none, e :: rest)
  | [] => .ok (none, [])

def readNumber (negative : Bool) (cs : List Char) : Except ReadError (Json × List Char) := do
  let (intDigits, rest) ← readIntDigits cs
  let (frac, rest) ← readFraction rest
  let (expo, rest) ← readExponent rest
  let n ← Number.ofDigits negative intDigits frac expo
  return (.num n, rest)

def readLiteral (word : List Char) (v : Json) (cs : List Char) :
    Except ReadError (Json × List Char) :=
  if word.isPrefixOf cs then .ok (v, cs.drop word.length)
  else match cs.zip word |>.find? (fun p => p.1 != p.2) with
    | some (c, _) => .error (.unexpected c)
    | none => .error .endOfInput

mutual

/-- Reads a value after leading blanks; `room` counts the containers that may still be opened and
`fuel` bounds the work by the length of the text. -/
def readValue : Nat → Nat → List Char → Except ReadError (Json × List Char)
  | 0, _, _ => .error .endOfInput
  | fuel + 1, room, cs =>
    match skipSpace cs with
    | [] => .error .endOfInput
    | 'n' :: rest => readLiteral ['u', 'l', 'l'] .null rest
    | 't' :: rest => readLiteral ['r', 'u', 'e'] (.bool true) rest
    | 'f' :: rest => readLiteral ['a', 'l', 's', 'e'] (.bool false) rest
    | '"' :: rest => do
      let (s, rest) ← readString [] rest
      return (.str s, rest)
    | '-' :: rest => readNumber true rest
    | '[' :: rest =>
      if room ≤ 1 then .error .tooDeep
      else
        match skipSpace rest with
        | ']' :: rest' => .ok (.arr [], rest')
        | _ => readItems fuel (room - 1) [] rest
    | '{' :: rest =>
      if room ≤ 1 then .error .tooDeep
      else
        match skipSpace rest with
        | '}' :: rest' => .ok (.obj [], rest')
        | _ => readMembers fuel (room - 1) [] rest
    | c :: rest => if c.isDigit then readNumber false (c :: rest) else .error (.unexpected c)

def readItems : Nat → Nat → List Json → List Char → Except ReadError (Json × List Char)
  | 0, _, _, _ => .error .endOfInput
  | fuel + 1, room, acc, cs => do
    let (v, rest) ← readValue fuel room cs
    match skipSpace rest with
    | ',' :: rest' => readItems fuel room (v :: acc) rest'
    | ']' :: rest' => .ok (.arr (v :: acc).reverse, rest')
    | c :: _ => .error (.unexpected c)
    | [] => .error .endOfInput

def readMembers : Nat → Nat → List (String × Json) → List Char →
    Except ReadError (Json × List Char)
  | 0, _, _, _ => .error .endOfInput
  | fuel + 1, room, acc, cs =>
    match skipSpace cs with
    | '"' :: rest => do
      let (k, rest) ← readString [] rest
      match skipSpace rest with
      | ':' :: rest' => do
        let (v, rest'') ← readValue fuel room rest'
        match skipSpace rest'' with
        | ',' :: r => readMembers fuel room ((k, v) :: acc) r
        | '}' :: r => .ok (.obj ((k, v) :: acc).reverse, r)
        | c :: _ => .error (.unexpected c)
        | [] => .error .endOfInput
      | c :: _ => .error (.unexpected c)
      | [] => .error .endOfInput
    | c :: _ => .error (.unexpected c)
    | [] => .error .endOfInput

end

/-- Reads a whole JSON document: one value, blanks around it and nothing else. -/
def parse (s : String) : Except ReadError Json := do
  let cs := s.toList
  let (v, rest) ← readValue (2 * cs.length + 2) 128 cs
  match skipSpace rest with
  | [] => return v
  | _ => throw .trailing

end Json

end LoadDispatch
