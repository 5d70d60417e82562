import LoadDispatch.Json.Reader

/-!
A record read straight from its text in one pass, checked against the expected shape as it goes and
stopped at the first fault. A fault is of form when the text is not JSON and of content when it is
JSON of another shape; which one a document has depends on which comes first in the text. The value
read back is normal: records become objects of the fields given, in order.
-/

namespace LoadDispatch

/-- What a value is expected to be. -/
inductive Shape where
  /-- Any value, read for its form only. -/
  | ignored
  /-- `true` or `false`. -/
  | bool
  /-- A string. -/
  | text
  /-- An integer numeral from `lo` to `hi`. -/
  | integer (lo hi : Int)
  /-- Any number. -/
  | number
  /-- `null`, or a value of the inner shape. -/
  | optional (inner : Shape)
  /-- An array of values of one shape. -/
  | list (item : Shape)
  /-- A unit variant by name; with a fallback every other name is accepted too. -/
  | variant (names : List String) (fallback : Bool)
  /-- A record: each field's name, shape, and whether it has a default when missing. -/
  | record (fields : List (String × Shape × Bool))
  deriving Inhabited

/-- Why a typed read failed. -/
inductive Fault where
  /-- The text is not JSON. -/
  | form
  /-- The text is JSON so far, but not of the expected shape. -/
  | content
  deriving DecidableEq, Repr

namespace Shape

def i64 : Shape := integer (-Int.pow 2 63) (Int.pow 2 63 - 1)

def u32 : Shape := integer 0 (Int.pow 2 32 - 1)

def u64 : Shape := integer 0 (Int.pow 2 64 - 1)

def needed (name : String) (s : Shape) : String × Shape × Bool := (name, s, false)

def defaulted (name : String) (s : Shape) : String × Shape × Bool := (name, s, true)

def isOptional : Shape → Bool
  | optional _ => true
  | _ => false

/-- The fields of a record shape, each with whether it has a default; none for other shapes. -/
def fieldSpecs : Shape → List (String × Bool)
  | record fs => fs.map fun f => (f.1, f.2.2)
  | _ => []

end Shape

namespace Json

def formFault {α : Type} (r : Except ReadError α) : Except Fault α := r.mapError fun _ => .form

def skipString : List Char → Except Fault (List Char)
  | [] => .error .form
  | '"' :: rest => .ok rest
  | '\\' :: 'u' :: a :: b :: c :: d :: rest =>
    match hex4 a b c d with
    | some _ => skipString rest
    | none => .error .form
  | '\\' :: e :: rest => if (simpleEscape e).isSome then skipString rest else .error .form
  | ['\\'] => .error .form
  | c :: rest => if c.toNat < 0x20 then .error .form else skipString rest

def skipDigits (cs : List Char) : Except Fault (List Char) :=
  match cs.span Char.isDigit with
  | ([], _) => .error .form
  | (_, rest) => .ok rest

def skipNumber (cs : List Char) : Except Fault (List Char) := do
  let rest ← match cs with
    | '0' :: rest =>
      match rest with
      | d :: _ => if d.isDigit then Except.error Fault.form else pure rest
      | [] => pure rest
    | _ => skipDigits cs
  let rest ← match rest with
    | '.' :: r => skipDigits r
    | _ => pure rest
  match rest with
  | e :: r =>
    if e == 'e' || e == 'E' then
      skipDigits (match r with
        | '+' :: x => x
        | '-' :: x => x
        | x => x)
    else pure rest
  | [] => pure rest

mutual

/-- Skips a value after leading blanks, checking only its form; `fuel` bounds the work by the
length of the text. -/
def skipValue : Nat → List Char → Except Fault (List Char)
  | 0, _ => .error .form
  | fuel + 1, cs =>
    match skipSpace cs with
    | [] => .error .form
    | 'n' :: rest => formFault ((readLiteral ['u', 'l', 'l'] .null rest).map (·.2))
    | 't' :: rest => formFault ((readLiteral ['r', 'u', 'e'] .null rest).map (·.2))
    | 'f' :: rest => formFault ((readLiteral ['a', 'l', 's', 'e'] .null rest).map (·.2))
    | '"' :: rest => skipString rest
    | '-' :: rest => skipNumber rest
    | '[' :: rest =>
      match skipSpace rest with
      | ']' :: rest' => .ok rest'
      | _ => skipItems fuel rest
    | '{' :: rest =>
      match skipSpace rest with
      | '}' :: rest' => .ok rest'
      | _ => skipMembers fuel rest
    | c :: rest => if c.isDigit then skipNumber (c :: rest) else .error .form

def skipItems : Nat → List Char → Except Fault (List Char)
  | 0, _ => .error .form
  | fuel + 1, cs => do
    let rest ← skipValue fuel cs
    match skipSpace rest with
    | ',' :: rest' => skipItems fuel rest'
    | ']' :: rest' => .ok rest'
    | _ => .error .form

def skipMembers : Nat → List Char → Except Fault (List Char)
  | 0, _ => .error .form
  | fuel + 1, cs =>
    match skipSpace cs with
    | '"' :: rest => do
      let rest ← skipString rest
      match skipSpace rest with
      | ':' :: rest' => do
        let rest'' ← skipValue fuel rest'
        match skipSpace rest'' with
        | ',' :: r => skipMembers fuel r
        | '}' :: r => .ok r
        | _ => .error .form
      | _ => .error .form
    | _ => .error .form

end

/-- The fault of a value not of the expected kind: a scalar is read to its end first, so a broken
one is a fault of form, while a container is refused at once. -/
def mismatch (cs : List Char) : Fault :=
  let after {α : Type} (r : Except ReadError α) : Fault :=
    match r with
    | .ok _ => .content
    | .error _ => .form
  match skipSpace cs with
  | 'n' :: rest => after (readLiteral ['u', 'l', 'l'] .null rest)
  | 't' :: rest => after (readLiteral ['r', 'u', 'e'] .null rest)
  | 'f' :: rest => after (readLiteral ['a', 'l', 's', 'e'] .null rest)
  | '"' :: rest => after (readString [] rest)
  | '-' :: rest => after (readNumber true rest)
  | '[' :: _ => .content
  | '{' :: _ => .content
  | c :: rest => if c.isDigit then after (readNumber false (c :: rest)) else .form
  | [] => .form

def readSignedNumber (cs : List Char) : Option (Except Fault (Json × List Char)) :=
  match cs with
  | '-' :: rest => some (formFault (readNumber true rest))
  | c :: rest => if c.isDigit then some (formFault (readNumber false (c :: rest))) else none
  | [] => none

def integerWithin (lo hi : Int) : Json → Bool
  | .num (.nat n) => lo ≤ (n : Int) && (n : Int) ≤ hi
  | .num (.negInt i) => lo ≤ i && i ≤ hi
  | _ => false

def variantName (names : List String) (fallback : Bool) (cs : List Char) :
    Except Fault (String × List Char) :=
  match skipSpace cs with
  | '"' :: rest => do
    let (name, rest) ← formFault (readString [] rest)
    if fallback || names.contains name then pure (name, rest) else throw .content
  | other => throw (mismatch other)

def unitValue (cs : List Char) : Except Fault (List Char) :=
  match skipSpace cs with
  | 'n' :: rest => formFault ((readLiteral ['u', 'l', 'l'] .null rest).map (·.2))
  | [] => .error .form
  | other => .error (mismatch other)

/-- Whether the fields an object leaves out may be left out: they have defaults or are optional. -/
def defaultsCover (fields : List (String × Shape × Bool)) (given : List String) : Bool :=
  fields.all fun f => f.2.2 || f.2.1.isOptional || given.contains f.1

def trailingDefaulted (fields : List (String × Shape × Bool)) : Bool := fields.all (·.2.2)

mutual

/-- Reads a value of a shape after leading blanks; `room` counts the typed containers that may still
be opened and `fuel` bounds the work by the length of the text. -/
def readAs : Nat → Nat → Shape → List Char → Except Fault (Json × List Char)
  | 0, _, _, _ => .error .form
  | fuel + 1, room, shape, cs =>
    let cs := skipSpace cs
    match shape, cs with
    | _, [] => .error .form
    | .ignored, _ => do
      let rest ← skipValue fuel cs
      return (.null, rest)
    | .bool, 't' :: rest => formFault (readLiteral ['r', 'u', 'e'] (.bool true) rest)
    | .bool, 'f' :: rest => formFault (readLiteral ['a', 'l', 's', 'e'] (.bool false) rest)
    | .text, '"' :: rest => do
      let (s, rest) ← formFault (readString [] rest)
      return (.str s, rest)
    | .integer lo hi, _ =>
      match readSignedNumber cs with
      | some r => do
        let (n, rest) ← r
        if integerWithin lo hi n then pure (n, rest) else throw .content
      | none => .error (mismatch cs)
    | .number, _ =>
      match readSignedNumber cs with
      | some r => r
      | none => .error (mismatch cs)
    | .optional _, 'n' :: rest => formFault (readLiteral ['u', 'l', 'l'] .null rest)
    | .optional inner, _ => readAs fuel room inner cs
    | .list item, '[' :: rest =>
      if room ≤ 1 then .error .form else readItemsAs fuel (room - 1) item [] true rest
    | .variant names fallback, '"' :: _ => do
      let (name, rest) ← variantName names fallback cs
      return (.str name, rest)
    | .variant names fallback, '{' :: rest =>
      if room ≤ 1 then .error .form
      else do
        let (name, rest) ← variantName names fallback rest
        let rest ← match skipSpace rest with
          | ':' :: r => pure r
          | _ => throw Fault.form
        let rest ← unitValue rest
        match skipSpace rest with
        | '}' :: r => pure (.str name, r)
        | _ => throw .form
    | .variant _ _, _ => .error .form
    | .record fields, '{' :: rest =>
      if room ≤ 1 then .error .form else readMembersAs fuel (room - 1) fields [] true rest
    | .record fields, '[' :: rest =>
      if room ≤ 1 then .error .form else readFieldsAs fuel (room - 1) fields [] true rest
    | _, _ => .error (mismatch cs)

def readItemsAs : Nat → Nat → Shape → List Json → Bool → List Char →
    Except Fault (Json × List Char)
  | 0, _, _, _, _, _ => .error .form
  | fuel + 1, room, item, acc, first, cs =>
    let next (cs : List Char) : Except Fault (Json × List Char) := do
      let (v, rest) ← readAs fuel room item cs
      readItemsAs fuel room item (v :: acc) false rest
    match skipSpace cs with
    | [] => .error .form
    | ']' :: rest => .ok (.arr acc.reverse, rest)
    | c :: rest =>
      if first then next (c :: rest)
      else if c == ',' then
        match skipSpace rest with
        | ']' :: _ => .error .form
        | [] => .error .form
        | more => next more
      else .error .form

def readMembersAs : Nat → Nat → List (String × Shape × Bool) → List (String × Json) → Bool →
    List Char → Except Fault (Json × List Char)
  | 0, _, _, _, _, _ => .error .form
  | fuel + 1, room, fields, acc, first, cs =>
    let member (cs : List Char) : Except Fault (Json × List Char) :=
      match cs with
      | '"' :: rest => do
        let (key, rest) ← formFault (readString [] rest)
        let known := fields.find? (·.1 == key)
        if known.isSome && acc.any (·.1 == key) then throw .content
        let rest ← match skipSpace rest with
          | ':' :: r => pure r
          | _ => throw Fault.form
        match known with
        | some (_, shape, _) =>
          let (v, rest) ← readAs fuel room shape rest
          readMembersAs fuel room fields ((key, v) :: acc) false rest
        | none =>
          let rest ← skipValue fuel rest
          readMembersAs fuel room fields acc false rest
      | _ => .error .form
    match skipSpace cs with
    | [] => .error .form
    | '}' :: rest =>
      if defaultsCover fields (acc.map (·.1)) then .ok (.obj acc.reverse, rest)
      else .error .content
    | c :: rest =>
      if first then member (c :: rest)
      else if c == ',' then member (skipSpace rest)
      else .error .form

def readFieldsAs : Nat → Nat → List (String × Shape × Bool) → List (String × Json) → Bool →
    List Char → Except Fault (Json × List Char)
  | 0, _, _, _, _, _ => .error .form
  | fuel + 1, room, fields, acc, first, cs =>
    match fields with
    | [] =>
      match skipSpace cs with
      | ']' :: rest => .ok (.obj acc.reverse, rest)
      | _ => .error .form
    | (name, shape, _) :: later =>
      let next (cs : List Char) : Except Fault (Json × List Char) := do
        let (v, rest) ← readAs fuel room shape cs
        readFieldsAs fuel room later ((name, v) :: acc) false rest
      match skipSpace cs with
      | [] => .error .form
      | ']' :: rest =>
        if trailingDefaulted fields then .ok (.obj acc.reverse, rest) else .error .content
      | c :: rest =>
        if first then next (c :: rest)
        else if c == ',' then
          match skipSpace rest with
          | ']' :: _ => .error .form
          | [] => .error .form
          | more => next more
        else .error .form

end

/-- Reads a whole document of a shape: one value, blanks around it and nothing else. -/
def readTyped (shape : Shape) (s : String) : Except Fault Json := do
  let cs := s.toList
  let (v, rest) ← readAs (4 * cs.length + 8) 128 shape cs
  match skipSpace rest with
  | [] => return v
  | _ => throw .form

end Json

end LoadDispatch
