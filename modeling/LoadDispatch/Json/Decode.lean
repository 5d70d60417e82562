import LoadDispatch.Json.Value

/-!
Typed decoding of JSON values with the rules of derived record readers: unknown members are ignored,
a missing member is an error unless the field has a default or is optional, and an integer must be
an integer numeral inside the range of its width.
-/

namespace LoadDispatch

/-- Why a value does not decode: the member path of the fault, outermost first. -/
structure DecodeError where
  path : List String
  deriving DecidableEq, Repr

namespace DecodeError

def here : DecodeError := ⟨[]⟩

def under (key : String) (e : DecodeError) : DecodeError := ⟨key :: e.path⟩

end DecodeError

/-- A reader of one kind of value. -/
abbrev Decoder (α : Type) := Json → Except DecodeError α

namespace Decoder

def natBelow (bound : Nat) : Decoder Nat
  | .num (.nat n) => if n < bound then .ok n else .error .here
  | _ => .error .here

def u16 : Decoder Nat := natBelow (Nat.pow 2 16)

def u32 : Decoder Nat := natBelow (Nat.pow 2 32)

def u64 : Decoder Nat := natBelow (Nat.pow 2 64)

def intOfWidth (bits : Nat) : Decoder Int
  | .num (.nat n) => if n < Nat.pow 2 (bits - 1) then .ok n else .error .here
  | .num (.negInt i) => if -Int.pow 2 (bits - 1) ≤ i then .ok i else .error .here
  | _ => .error .here

def i64 : Decoder Int := intOfWidth 64

def i32 : Decoder Int := intOfWidth 32

/-- A double: every JSON number, integers rounded to the nearest double. -/
def f64 : Decoder Binary64
  | .num (.nat n) => .ok (Binary64.ofNat n)
  | .num (.negInt i) => .ok (Binary64.ofInt i)
  | .num (.float x) => .ok x
  | _ => .error .here

def bool : Decoder Bool
  | .bool b => .ok b
  | _ => .error .here

def string : Decoder String
  | .str s => .ok s
  | _ => .error .here

def any : Decoder Json := fun j => .ok j

def listOf {α : Type} (d : Decoder α) : List Json → Except DecodeError (List α)
  | [] => .ok []
  | j :: rest => do
    let a ← d j
    let as ← listOf d rest
    return a :: as

def list {α : Type} (d : Decoder α) : Decoder (List α)
  | .arr items => listOf d items
  | _ => .error .here

def nullable {α : Type} (d : Decoder α) : Decoder (Option α)
  | .null => .ok none
  | j => some <$> d j

def oneOf {α : Type} (table : List (String × α)) : Decoder α
  | .str s => match table.find? (·.1 == s) with
    | some (_, a) => .ok a
    | none => .error .here
  | _ => .error .here

/-- A unit variant of an enumeration: its name as a string, or an object whose one member is
named by it and holds a value that `unit` accepts. -/
def unitVariantWith {α : Type} (unit : Json → Bool) (table : List (String × α)) : Decoder α :=
  fun j =>
    match j with
    | .str s => oneOf table (.str s)
    | _ =>
      match j.soleMember? with
      | some (name, v) => if unit v then oneOf table (.str name) else .error .here
      | none => .error .here

def isNull : Json → Bool
  | .null => true
  | _ => false

def unitVariant {α : Type} (table : List (String × α)) : Decoder α := unitVariantWith isNull table

def object : Decoder (List (String × Json))
  | .obj ms => .ok ms
  | _ => .error .here

/-- A record as an object, or as an array giving its items to the fields in order. An array that
ends before a field without a default is refused, and so is one with more items than fields unless
`extraIgnored` holds. -/
def recordWith (extraIgnored : Bool) (fields : List (String × Bool)) : Decoder Json
  | .obj ms => .ok (.obj ms)
  | .arr items =>
    if !extraIgnored && fields.length < items.length then .error .here
    else if (fields.drop items.length).all (·.2) then .ok (.obj ((fields.map (·.1)).zip items))
    else .error .here
  | _ => .error .here

/-- A record as an object; an array may not hold more items than the record has fields. -/
def record (fields : List (String × Bool)) : Decoder Json := recordWith false fields

def field {α : Type} (j : Json) (key : String) (d : Decoder α) : Except DecodeError α :=
  match j.get? key with
  | some v => (d v).mapError (DecodeError.under key)
  | none => .error (DecodeError.under key .here)

def fieldOr {α : Type} (j : Json) (key : String) (d : Decoder α) (default : α) :
    Except DecodeError α :=
  match j.get? key with
  | some v => (d v).mapError (DecodeError.under key)
  | none => .ok default

def fieldOpt {α : Type} (j : Json) (key : String) (d : Decoder α) : Except DecodeError (Option α) :=
  fieldOr j key (nullable d) none

end Decoder

end LoadDispatch
