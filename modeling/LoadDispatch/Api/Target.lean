/-!
The target of an HTTP request: a path with an optional query, an absolute URI whose path is then
taken, the asterisk form, or an authority alone. A fragment after `#` is dropped, and a target is
refused when it is empty, longer than 65534 bytes, relative, or holds a character that must be
escaped where it stands.
-/

namespace LoadDispatch

namespace Api

/-- Why a request target was refused. -/
inductive TargetError where
  /-- The target is empty. -/
  | empty
  /-- The target is longer than 65534 bytes. -/
  | tooLong
  /-- A character must be escaped where it stands. -/
  | invalidChar
  /-- The target is relative, or an absolute URI without an authority. -/
  | invalidFormat
  /-- The authority is malformed. -/
  | invalidAuthority
  /-- The scheme is longer than 64 characters. -/
  | schemeTooLong
  deriving DecidableEq, Repr

/-- A request target reduced to what routing reads. -/
structure Target where
  /-- The path: `/` for an absolute URI without one, empty for an authority alone. -/
  path : String
  /-- The query, without its `?`. -/
  query : Option String := none
  deriving DecidableEq, Repr

namespace Target

def maxBytes : Nat := 65534

def maxSchemeLength : Nat := 64

def isPathChar (c : Char) : Bool :=
  let n := c.toNat
  n == 0x21 || n == 0x22 || (0x24 ≤ n && n ≤ 0x3B) || n == 0x3D || (0x40 ≤ n && n ≤ 0x5F) ||
    (0x61 ≤ n && n ≤ 0x7E) || 0x80 ≤ n

def isQueryChar (c : Char) : Bool :=
  let n := c.toNat
  n == 0x21 || (0x24 ≤ n && n ≤ 0x3B) || n == 0x3D || (0x3F ≤ n && n ≤ 0x7E) || 0x80 ≤ n

/-- Characters that may stand in an authority, `%` and the characters that end it apart. -/
def isAuthorityChar (c : Char) : Bool :=
  c.isAlphanum || "!$&'()*+,-.:;=@[]_~".toList.contains c

def isSchemeChar (c : Char) : Bool := c.isAlphanum || c == '+' || c == '-' || c == '.' || c == '~'

def readQuery : List Char → Except TargetError (List Char)
  | [] => .ok []
  | '#' :: _ => .ok []
  | c :: rest => if isQueryChar c then (c :: ·) <$> readQuery rest else .error .invalidChar

/-- Reads a path and its query, dropping a fragment. -/
def readPath : List Char → Except TargetError (List Char × Option (List Char))
  | [] => .ok ([], none)
  | '#' :: _ => .ok ([], none)
  | '?' :: rest => do return ([], some (← readQuery rest))
  | c :: rest =>
    if isPathChar c then do
      let (p, q) ← readPath rest
      return (c :: p, q)
    else .error .invalidChar

structure AuthorityScan where
  /-- Colons since the user information or the bracketed host. -/
  colons : Nat := 0
  opened : Bool := false
  closed : Bool := false
  /-- A `%` since the user information or the bracketed host. -/
  percent : Bool := false
  /-- The position of the last `@`. -/
  lastAt : Option Nat := none

def AuthorityScan.finish (st : AuthorityScan) (n : Nat) : Except TargetError Nat :=
  if st.opened != st.closed || st.colons > 1 || (n > 0 && st.lastAt == some (n - 1)) || st.percent
  then .error .invalidAuthority
  else .ok n

/-- Scans an authority from position `i`: the number of characters before the first `/`, `?` or
`#`. -/
def scanAuthority : List Char → Nat → AuthorityScan → Except TargetError Nat
  | [], i, st => st.finish i
  | c :: rest, i, st =>
    if c == '/' || c == '?' || c == '#' then st.finish i
    else if c == ':' then
      if st.colons ≥ 8 then .error .invalidAuthority
      else scanAuthority rest (i + 1) { st with colons := st.colons + 1 }
    else if c == '[' then
      if st.percent || st.opened then .error .invalidAuthority
      else scanAuthority rest (i + 1) { st with opened := true }
    else if c == ']' then
      if !st.opened || st.closed then .error .invalidAuthority
      else scanAuthority rest (i + 1) { st with closed := true, colons := 0, percent := false }
    else if c == '@' then
      scanAuthority rest (i + 1) { st with lastAt := some i, colons := 0, percent := false }
    else if c == '%' then scanAuthority rest (i + 1) { st with percent := true }
    else if isAuthorityChar c then scanAuthority rest (i + 1) st
    else .error .invalidChar

def authorityLength (cs : List Char) : Except TargetError Nat := scanAuthority cs 0 {}

def schemeEnd : List Char → Nat → Except TargetError (Option Nat)
  | [], _ => .ok none
  | c :: rest, i =>
    if c == ':' then
      if rest.take 2 != ['/', '/'] then .ok none
      else if i > maxSchemeLength then .error .schemeTooLong
      else .ok (some (i + 3))
    else if isSchemeChar c then schemeEnd rest (i + 1)
    else .ok none

def schemeLength (cs : List Char) : Except TargetError (Option Nat) :=
  let lower := cs.map Char.toLower
  if lower.take 7 == "http://".toList then .ok (some 7)
  else if lower.take 8 == "https://".toList then .ok (some 8)
  else if cs.length > 3 then schemeEnd cs 0
  else .ok none

def ofParts (p : List Char × Option (List Char)) : Target :=
  { path := String.ofList p.1, query := p.2.map String.ofList }

/-- Reads a target that does not start with `/`: an absolute URI or an authority alone. -/
def readFull (cs : List Char) : Except TargetError Target := do
  let scheme ← schemeLength cs
  let rest := cs.drop (scheme.getD 0)
  let n ← authorityLength rest
  match scheme with
  | none => if n == rest.length then return { path := "" } else throw .invalidFormat
  | some _ =>
    if n == 0 then throw .invalidFormat
    let t := ofParts (← readPath (rest.drop n))
    return if t.path.isEmpty then { t with path := "/" } else t

/-- Reads a request target. -/
def parse (s : String) : Except TargetError Target :=
  if s.utf8ByteSize > maxBytes then .error .tooLong
  else match s.toList with
    | [] => .error .empty
    | ['/'] => .ok { path := "/" }
    | ['*'] => .ok { path := "*" }
    | [c] => do
      let n ← authorityLength [c]
      if n == 1 then return { path := "" } else throw .invalidChar
    | cs@('/' :: _) => ofParts <$> readPath cs
    | cs => readFull cs

def text (t : Target) : String :=
  match t.query with
  | some q => t.path ++ "?" ++ q
  | none => t.path

end Target

end Api

end LoadDispatch
