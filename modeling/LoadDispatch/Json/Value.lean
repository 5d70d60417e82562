import LoadDispatch.Decimal.Binary64

/-!
JSON values. A number is kept as it was read: a natural below `2 ^ 64`, a negative integer not below
`-2 ^ 63`, or a double. An object keeps its members in document order, and a key given twice is
looked up by its last member.
-/

namespace LoadDispatch

/-- A JSON number: an unsigned 64-bit integer, a negative signed 64-bit integer, or a double. -/
inductive Number where
  | nat (n : Nat)
  | negInt (i : Int)
  | float (x : Binary64)
  deriving DecidableEq, Repr, Inhabited

/-- A JSON value. -/
inductive Json where
  | null
  | bool (b : Bool)
  | num (n : Number)
  | str (s : String)
  | arr (items : List Json)
  | obj (members : List (String × Json))
  deriving Inhabited, Repr

namespace Json

/-- The member of an object under a key, the last one if the key is repeated. -/
def get? (j : Json) (key : String) : Option Json :=
  match j with
  | .obj ms => (ms.reverse.find? (·.1 == key)).map (·.2)
  | _ => none

def members? : Json → Option (List (String × Json))
  | .obj ms => some ms
  | _ => none

/-- The one member of an object whose members all share one key, with the value given last;
none for other values. -/
def soleMember? : Json → Option (String × Json)
  | .obj ((k, v) :: rest) =>
    if rest.all (·.1 == k) then some (k, (rest.getLast?.map (·.2)).getD v) else none
  | _ => none

def has (j : Json) (key : String) : Bool := (j.get? key).isSome

/-- Sets a member: replaces every member under the key by one at the place of the first. -/
def setMember (ms : List (String × Json)) (key : String) (v : Json) : List (String × Json) :=
  if ms.any (·.1 == key) then
    let (before, after) := ms.span (·.1 != key)
    before ++ (key, v) :: after.filter (·.1 != key)
  else ms ++ [(key, v)]

def eraseMember (ms : List (String × Json)) (key : String) : List (String × Json) :=
  ms.filter (·.1 != key)

def ofNat (n : Nat) : Json := .num (.nat n)

def ofInt (i : Int) : Json := if 0 ≤ i then .num (.nat i.toNat) else .num (.negInt i)

def ofFloat (x : Binary64) : Json := .num (.float x)

def opt {α : Type} (f : α → Json) : Option α → Json
  | some a => f a
  | none => .null

def optStr (s : Option String) : Json := opt .str s

def optInt (i : Option Int) : Json := opt ofInt i

def list {α : Type} (f : α → Json) (xs : List α) : Json := .arr (xs.map f)

end Json

end LoadDispatch
