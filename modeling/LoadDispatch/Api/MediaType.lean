import LoadDispatch.Api.Headers

/-!
A `Content-Type` value read as a media type: `type/subtype` and `;`-separated `name=value`
parameters, with no blanks around `/` or `=` and none before `;`. The last `+` inside a subtype,
other than its first character, starts the structured-syntax suffix, and types, subtypes and
suffixes compare without regard to ASCII case.
-/

namespace LoadDispatch

namespace Api

/-- A media type: its type, its subtype before any suffix, and its suffix. -/
structure MediaType where
  type : String
  subtype : String
  suffix : Option String := none
  deriving DecidableEq, Repr

namespace MediaType

inductive ParamState where
  /-- Before a parameter name, nothing of it read. -/
  | start
  /-- Inside a parameter name. -/
  | name
  /-- Right after the `=`. -/
  | valueStart
  /-- Inside an unquoted value. -/
  | value
  /-- Inside a quoted value; `empty` while nothing of it is read. -/
  | quoted (empty : Bool)
  /-- After the closing quote of a value. -/
  | closed

def isQuotedChar (c : Char) : Bool := c.toNat > 31 && c.toNat != 127

/-- Whether the text after the first `;` is a well-formed parameter list. -/
def paramsValid : ParamState → List Char → Bool
  | .start, [] => true
  | .start, ' ' :: rest => paramsValid .start rest
  | .start, c :: rest => Headers.isTokenChar c && paramsValid .name rest
  | .name, [] => false
  | .name, c :: rest =>
    if Headers.isTokenChar c then paramsValid .name rest
    else c == '=' && paramsValid .valueStart rest
  | .valueStart, [] => true
  | .valueStart, '"' :: rest => paramsValid (.quoted true) rest
  | .valueStart, c :: rest => Headers.isTokenChar c && paramsValid .value rest
  | .value, [] => true
  | .value, c :: rest =>
    if Headers.isTokenChar c then paramsValid .value rest
    else c == ';' && paramsValid .start rest
  | .quoted _, [] => false
  | .quoted empty, '"' :: rest =>
    if empty then paramsValid (.quoted false) rest else paramsValid .closed rest
  | .quoted _, c :: rest => isQuotedChar c && paramsValid (.quoted false) rest
  | .closed, [] => true
  | .closed, ';' :: rest => paramsValid .start rest
  | .closed, ' ' :: rest => paramsValid .closed rest
  | .closed, _ :: _ => false

def suffixStart (sub : List Char) : Option Nat :=
  ((sub.zipIdx.filter fun (c, i) => c == '+' && i > 0).getLast?).map (·.2)

def ofSubtype (type : List Char) (sub : List Char) : MediaType :=
  let lower (cs : List Char) := String.ofList (cs.map Char.toLower)
  match suffixStart sub with
  | some i =>
    { type := lower type, subtype := lower (sub.take i), suffix := some (lower (sub.drop (i + 1))) }
  | none => { type := lower type, subtype := lower sub }

/-- Reads a media type; none when the text breaks the grammar. -/
def parse? (s : String) : Option MediaType :=
  let (type, rest) := s.toList.span Headers.isTokenChar
  match type, rest with
  | _ :: _, '/' :: afterSlash =>
    let (sub, rest) := afterSlash.span Headers.isTokenChar
    match sub, rest with
    | _, [] => some (ofSubtype type sub)
    | _ :: _, ';' :: params =>
      if paramsValid .start params then some (ofSubtype type sub) else none
    | _, _ => none
  | _, _ => none

/-- Whether a media type is JSON: `application/json`, or an `application` type with the suffix
`json`. -/
def isJson (m : MediaType) : Bool :=
  m.type == "application" && (m.subtype == "json" || m.suffix == some "json")

end MediaType

end Api

end LoadDispatch
