import LoadDispatch.Json.Value
import LoadDispatch.Decimal.Render

/-!
Compact JSON text: no blanks, members ordered by key with the last member of a repeated key kept,
and only the quote, the backslash and the control characters escaped.
-/

namespace LoadDispatch

def Number.text : Number → String
  | .nat n => toString n
  | .negInt i => toString i
  | .float x => x.dataText

namespace Json

def hexDigit (n : Nat) : Char := if n < 10 then Char.ofNat (48 + n) else Char.ofNat (87 + n)

/-- The escaped form of one character inside a string. -/
def escapeChar (c : Char) : List Char :=
  if c == '"' then ['\\', '"']
  else if c == '\\' then ['\\', '\\']
  else if c == '\n' then ['\\', 'n']
  else if c == '\r' then ['\\', 'r']
  else if c == '\t' then ['\\', 't']
  else if c.toNat == 8 then ['\\', 'b']
  else if c.toNat == 12 then ['\\', 'f']
  else if c.toNat < 0x20 then ['\\', 'u', '0', '0', hexDigit (c.toNat / 16), hexDigit (c.toNat % 16)]
  else [c]

def quote (s : String) : String :=
  String.ofList ('"' :: (s.toList.flatMap escapeChar ++ ['"']))

/-- Puts a member before the first one whose key is not smaller, so members of one key keep their
order. -/
def insertMember (m : String × String) : List (String × String) → List (String × String)
  | [] => [m]
  | n :: rest => if m.1 ≤ n.1 then m :: n :: rest else n :: insertMember m rest

/-- Orders written members by key and keeps the last member of each key. -/
def orderMembers (ms : List (String × String)) : List (String × String) :=
  let sorted := ms.reverse.foldr insertMember []
  sorted.foldr (fun m acc => match acc with
    | n :: _ => if n.1 == m.1 then m :: acc.tail else m :: acc
    | [] => [m]) []

def commaJoin (xs : List String) : String := ",".intercalate xs

mutual

/-- The compact text of a value. -/
def render : Json → String
  | .null => "null"
  | .bool true => "true"
  | .bool false => "false"
  | .num n => n.text
  | .str s => quote s
  | .arr items => "[" ++ commaJoin (renderItems items) ++ "]"
  | .obj ms =>
    "\x7b" ++ commaJoin ((orderMembers (renderMembers ms)).map fun m => quote m.1 ++ ":" ++ m.2) ++ "\x7d"

def renderItems : List Json → List String
  | [] => []
  | j :: rest => render j :: renderItems rest

def renderMembers : List (String × Json) → List (String × String)
  | [] => []
  | (k, v) :: rest => (k, render v) :: renderMembers rest

end

end Json

end LoadDispatch
