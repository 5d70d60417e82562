import LoadDispatch.Json.Reader

/-!
A TOML 1.0 reader that yields the document as a JSON value; a date or time becomes an object holding
its text under `$__toml_private_datetime`, which no text, number or flag field accepts. The table
rules are enforced: a key or a `[table]` header is defined once, dotted keys do not reopen tables
named by headers, and inline tables and arrays are closed once written.
-/

namespace LoadDispatch

/-- Why a text is not a TOML document. -/
inductive TomlError where
  | malformed (remaining : Nat)
  | duplicate (key : String)
  | outOfRange
  /-- Values nested, or a key of components, as deep as `Toml.maxDepth`. -/
  | tooDeep
  deriving DecidableEq, Repr

/-- A TOML value as written. -/
inductive TomlValue where
  | str (s : String)
  | int (i : Int)
  | float (x : Binary64)
  | bool (b : Bool)
  | datetime (text : String)
  | arr (items : List TomlValue)
  /-- An inline table; `dotted` when it was made by dotted keys inside an enclosing inline
  table, which may then extend it. -/
  | inline (members : List (String × TomlValue)) (dotted : Bool)
  deriving Inhabited

/-- How a table came to be: named by a header, made on the way to a deeper header, or made by a
dotted key. -/
inductive TableOrigin where
  | header
  | implicit
  | dotted
  deriving DecidableEq

/-- A node of a document under construction. -/
inductive TomlNode where
  | leaf (v : TomlValue)
  | table (origin : TableOrigin) (members : List (String × TomlNode))
  | tables (items : List (List (String × TomlNode)))
  deriving Inhabited

namespace Toml

/-- The nesting of arrays and inline tables, and the number of components of a key, must stay
below this. -/
def maxDepth : Nat := 80

def isWs (c : Char) : Bool := c == ' ' || c == '\t'

def skipWs : List Char → List Char
  | c :: rest => if isWs c then skipWs rest else c :: rest
  | [] => []

def isTextChar (c : Char) : Bool := c == '\t' || (c.toNat ≥ 0x20 && c.toNat != 0x7F)

def skipComment : List Char → Except TomlError (List Char)
  | '#' :: rest =>
    let (body, after) := rest.span fun c => c != '\n' && c != '\r'
    if body.all isTextChar then .ok after else .error (.malformed after.length)
  | cs => .ok cs

def endOfLine (cs : List Char) : Except TomlError (List Char) := do
  match ← skipComment (skipWs cs) with
  | [] => return []
  | '\n' :: rest => return rest
  | '\r' :: '\n' :: rest => return rest
  | rest => throw (TomlError.malformed rest.length)

def skipBlankLines : Nat → List Char → Except TomlError (List Char)
  | 0, cs => .ok cs
  | fuel + 1, cs =>
    match skipWs cs with
    | '\n' :: rest => skipBlankLines fuel rest
    | '\r' :: '\n' :: rest => skipBlankLines fuel rest
    | '#' :: rest => do skipBlankLines fuel (← skipComment ('#' :: rest))
    | rest => .ok rest

def isBareChar (c : Char) : Bool := c.isAlphanum || c == '_' || c == '-'

def hexDigitValue (c : Char) : Option Nat := Json.hexValue c

def hexScalar (n : Nat) (cs : List Char) : Option (Char × List Char) := do
  let ds := cs.take n
  if ds.length != n then none
  let v ← ds.foldlM (fun acc c => (hexDigitValue c).map (acc * 16 + ·)) 0
  if v < 0xD800 || (0xE000 ≤ v && v < 0x110000) then some (Char.ofNat v, cs.drop n) else none

def readEscape : List Char → Except TomlError (Char × List Char)
  | 'b' :: rest => .ok (Char.ofNat 8, rest)
  | 't' :: rest => .ok ('\t', rest)
  | 'n' :: rest => .ok ('\n', rest)
  | 'f' :: rest => .ok (Char.ofNat 12, rest)
  | 'r' :: rest => .ok ('\r', rest)
  | '"' :: rest => .ok ('"', rest)
  | '\\' :: rest => .ok ('\\', rest)
  | 'u' :: rest => match hexScalar 4 rest with
    | some r => .ok r
    | none => .error (.malformed rest.length)
  | 'U' :: rest => match hexScalar 8 rest with
    | some r => .ok r
    | none => .error (.malformed rest.length)
  | rest => .error (.malformed rest.length)

def readBasic (acc : List Char) : Nat → List Char → Except TomlError (String × List Char)
  | 0, cs => .error (.malformed cs.length)
  | fuel + 1, cs =>
    match cs with
    | '"' :: rest => .ok (String.ofList acc.reverse, rest)
    | '\\' :: rest => do
      let (c, rest) ← readEscape rest
      readBasic (c :: acc) fuel rest
    | c :: rest => if isTextChar c then readBasic (c :: acc) fuel rest else .error (.malformed cs.length)
    | [] => .error (.malformed 0)

def readLiteral (acc : List Char) : List Char → Except TomlError (String × List Char)
  | '\'' :: rest => .ok (String.ofList acc.reverse, rest)
  | c :: rest => if isTextChar c then readLiteral (c :: acc) rest else .error (.malformed rest.length)
  | [] => .error (.malformed 0)

/-- Drops blanks and newlines after a line-ending backslash; a carriage return counts only as part
of a CRLF newline. -/
def trimLineEnd : List Char → List Char
  | '\r' :: '\n' :: rest => trimLineEnd rest
  | c :: rest => if isWs c || c == '\n' then trimLineEnd rest else c :: rest
  | [] => []

def endsLine (cs : List Char) : Bool :=
  match skipWs cs with
  | '\n' :: _ => true
  | '\r' :: '\n' :: _ => true
  | _ => false

/-- Reads a multi-line string after its opening delimiter; `quote` is the delimiter character and
`escapes` tells whether backslash escapes apply. -/
def readMultiline (quote : Char) (escapes : Bool) (acc : List Char) :
    Nat → List Char → Except TomlError (String × List Char)
  | 0, cs => .error (.malformed cs.length)
  | fuel + 1, cs =>
    if (List.replicate 3 quote).isPrefixOf cs then
      let extra := ((cs.drop 3).takeWhile (· == quote)).length
      if extra > 2 then .error (.malformed cs.length)
      else .ok (String.ofList (acc.reverse ++ List.replicate extra quote), cs.drop (3 + extra))
    else
      match cs with
      | '\\' :: rest =>
        if !escapes then readMultiline quote escapes ('\\' :: acc) fuel rest
        else if endsLine rest then readMultiline quote escapes acc fuel (trimLineEnd rest)
        else do
          let (c, rest) ← readEscape rest
          readMultiline quote escapes (c :: acc) fuel rest
      | '\r' :: '\n' :: rest => readMultiline quote escapes ('\n' :: acc) fuel rest
      | '\n' :: rest => readMultiline quote escapes ('\n' :: acc) fuel rest
      | c :: rest =>
        if isTextChar c then readMultiline quote escapes (c :: acc) fuel rest
        else .error (.malformed cs.length)
      | [] => .error (.malformed 0)

def dropFirstNewline : List Char → List Char
  | '\n' :: rest => rest
  | '\r' :: '\n' :: rest => rest
  | cs => cs

def readSimpleKey (cs : List Char) : Except TomlError (String × List Char) :=
  match cs with
  | '"' :: rest => readBasic [] (rest.length + 1) rest
  | '\'' :: rest => readLiteral [] rest
  | _ =>
    let (k, rest) := cs.span isBareChar
    if k.isEmpty then .error (.malformed cs.length) else .ok (String.ofList k, rest)

def readKeyParts : Nat → List Char → Except TomlError (List String × List Char)
  | 0, cs => .error (.malformed cs.length)
  | fuel + 1, cs => do
    let (k, rest) ← readSimpleKey (skipWs cs)
    match skipWs rest with
    | '.' :: rest' => do
      let (ks, rest'') ← readKeyParts fuel rest'
      return (k :: ks, rest'')
    | _ => return ([k], skipWs rest)

def readKey (fuel : Nat) (cs : List Char) : Except TomlError (List String × List Char) := do
  let (ks, rest) ← readKeyParts fuel cs
  if maxDepth ≤ ks.length then throw .tooDeep
  return (ks, rest)

def isDelimiter (c : Char) : Bool :=
  isWs c || c == ',' || c == ']' || c == '}' || c == '#' || c == '\n' || c == '\r'

def underscoredDigits (ok : Char → Bool) (cs : List Char) : Bool :=
  match cs with
  | [] => false
  | c :: rest =>
    ok c && (rest.foldl (fun (st : Bool × Bool) d =>
      if d == '_' then (st.1 && !st.2, true) else (st.1 && ok d, false)) (true, false)
      |> fun st => st.1 && !st.2)

def digitsValue (base : Nat) (cs : List Char) : Nat :=
  cs.foldl (fun n c => match hexDigitValue c with
    | some d => n * base + d
    | none => n) 0

def splitSign : List Char → Bool × List Char
  | '+' :: rest => (false, rest)
  | '-' :: rest => (true, rest)
  | cs => (false, cs)

def isDecInt (cs : List Char) : Bool :=
  cs == ['0'] || (underscoredDigits Char.isDigit cs && cs.head? != some '0')

def readInteger (tok : List Char) : Option Int :=
  let inRange (i : Int) : Option Int := if -Int.pow 2 63 ≤ i ∧ i < Int.pow 2 63 then some i else none
  match tok with
  | '0' :: 'x' :: ds =>
    if underscoredDigits (fun c => (hexDigitValue c).isSome) ds then inRange (digitsValue 16 ds) else none
  | '0' :: 'o' :: ds =>
    if underscoredDigits (fun c => '0' ≤ c && c ≤ '7') ds then inRange (digitsValue 8 ds) else none
  | '0' :: 'b' :: ds =>
    if underscoredDigits (fun c => c == '0' || c == '1') ds then inRange (digitsValue 2 ds) else none
  | _ =>
    let (neg, ds) := splitSign tok
    if isDecInt ds then
      let v := digitsValue 10 ds
      inRange (if neg then -(v : Int) else v)
    else none

def isSpecialFloat (tok : List Char) : Bool :=
  let body := (splitSign tok).2
  body == ['i', 'n', 'f'] || body == ['n', 'a', 'n']

/-- Reads a float token; a finite token too large for a double reads as infinity. -/
def readFloat (tok : List Char) : Option Binary64 :=
  let (neg, body) := splitSign tok
  if body == ['i', 'n', 'f'] then some (Binary64.infinity neg)
  else if body == ['n', 'a', 'n'] then some ⟨0x7FF8000000000000⟩
  else
    let (intPart, rest) := body.span fun c => c.isDigit || c == '_'
    let (frac, rest) := match rest with
      | '.' :: r => let (f, r') := r.span fun c => c.isDigit || c == '_'; (some f, r')
      | r => (none, r)
    let expo := match rest with
      | e :: r => if e == 'e' || e == 'E' then some (splitSign r) else none
      | [] => none
    let fracOk := match frac with
      | some f => underscoredDigits Char.isDigit f
      | none => true
    let expOk := match expo with
      | some (_, ds) => underscoredDigits Char.isDigit ds
      | none => rest.isEmpty
    if isDecInt intPart && fracOk && expOk && (frac.isSome || expo.isSome) then
      let fracDigits := (frac.getD []).filter (· != '_')
      let digits := digitsValue 10 (intPart ++ fracDigits)
      let e : Int := match expo with
        | some (en, ds) => if en then -(digitsValue 10 ds : Int) else (digitsValue 10 ds : Int)
        | none => 0
      some (Binary64.ofScientific neg digits (e - fracDigits.length))
    else none

def digitsOfLength (n : Nat) (cs : List Char) : Bool := cs.length == n && cs.all Char.isDigit

def isLeapYear (y : Nat) : Bool := y % 4 == 0 && (y % 100 != 0 || y % 400 == 0)

def daysInMonth (y m : Nat) : Nat :=
  if m == 2 then (if isLeapYear y then 29 else 28)
  else if m == 4 || m == 6 || m == 9 || m == 11 then 30
  else 31

/-- A full date `YYYY-MM-DD` that exists in the Gregorian calendar. -/
def isDate (cs : List Char) : Bool :=
  match cs with
  | [a, b, c, d, '-', e, f, '-', g, h] =>
    let y := digitsValue 10 [a, b, c, d]
    let m := digitsValue 10 [e, f]
    let day := digitsValue 10 [g, h]
    digitsOfLength 4 [a, b, c, d] && digitsOfLength 2 [e, f] && digitsOfLength 2 [g, h] &&
      1 ≤ m && m ≤ 12 && 1 ≤ day && day ≤ daysInMonth y m
  | _ => false

def isTime (cs : List Char) : Bool :=
  match cs with
  | a :: b :: ':' :: c :: d :: ':' :: e :: f :: rest =>
    digitsOfLength 2 [a, b] && digitsOfLength 2 [c, d] && digitsOfLength 2 [e, f] &&
      digitsValue 10 [a, b] < 24 && digitsValue 10 [c, d] < 60 && digitsValue 10 [e, f] ≤ 60 &&
      (match rest with
        | [] => true
        | '.' :: ds => !ds.isEmpty && ds.all Char.isDigit
        | _ => false)
  | _ => false

def isTimeWithOffset (cs : List Char) : Bool :=
  let n := cs.length
  isTime cs ||
    (n > 0 && (cs.getLast? == some 'Z' || cs.getLast? == some 'z') && isTime (cs.take (n - 1))) ||
    (n > 6 && (cs[n - 6]? == some '+' || cs[n - 6]? == some '-') &&
      isTime (cs.take (n - 6)) && match cs.drop (n - 5) with
        | [a, b, ':', c, d] => digitsOfLength 2 [a, b] && digitsOfLength 2 [c, d] &&
            digitsValue 10 [a, b] < 24 && digitsValue 10 [c, d] < 60
        | _ => false)

def isDatetime (tok : List Char) : Bool :=
  isDate tok || isTime tok ||
    (tok.length > 11 && isDate (tok.take 10) &&
      (tok[10]? == some 'T' || tok[10]? == some 't' || tok[10]? == some ' ') &&
      isTimeWithOffset (tok.drop 11))

def readBare (cs : List Char) : Except TomlError (TomlValue × List Char) :=
  let (tok, rest) := cs.span fun c => !isDelimiter c
  -- a date followed by a space and a time is one value
  let (tok, rest) := match rest with
    | ' ' :: r =>
      if isDate tok then
        let (t, r') := r.span fun c => !isDelimiter c
        if isTimeWithOffset t then (tok ++ ' ' :: t, r') else (tok, rest)
      else (tok, rest)
    | _ => (tok, rest)
  if tok.isEmpty then .error (.malformed cs.length)
  else match readInteger tok with
    | some i => .ok (.int i, rest)
    | none =>
      match readFloat tok with
      | some x =>
        if x == Binary64.infinity false && !isSpecialFloat tok then .error .outOfRange
        else .ok (.float x, rest)
      | none =>
        if isDatetime tok then .ok (.datetime (String.ofList tok), rest)
        else if (splitSign tok).2.all fun c => c.isDigit || c == '_' then .error .outOfRange
        else .error (.malformed cs.length)

/-- Inserts a dotted key into inline-table members: the tables on the way must have been made
by dotted keys of the same inline table. -/
def insertDotted (ms : List (String × TomlValue)) : List String → TomlValue →
    Except TomlError (List (String × TomlValue))
  | [], _ => .ok ms
  | [k], v =>
    if ms.any (·.1 == k) then .error (.duplicate k) else .ok (ms ++ [(k, v)])
  | k :: rest, v =>
    match ms.find? (·.1 == k) with
    | none => do
      let sub ← insertDotted [] rest v
      return ms ++ [(k, .inline sub true)]
    | some (_, .inline sub true) => do
      let sub ← insertDotted sub rest v
      return ms.map fun m => if m.1 == k then (k, .inline sub true) else m
    | some _ => .error (.duplicate k)

mutual

def readValue : Nat → Nat → List Char → Except TomlError (TomlValue × List Char)
  | 0, _, cs => .error (.malformed cs.length)
  | fuel + 1, depth, cs =>
    match cs with
    | '"' :: '"' :: '"' :: rest => do
      let (s, rest) ← readMultiline '"' true [] (rest.length + 1) (dropFirstNewline rest)
      return (.str s, rest)
    | '"' :: rest => do
      let (s, rest) ← readBasic [] (rest.length + 1) rest
      return (.str s, rest)
    | '\'' :: '\'' :: '\'' :: rest => do
      let (s, rest) ← readMultiline '\'' false [] (rest.length + 1) (dropFirstNewline rest)
      return (.str s, rest)
    | '\'' :: rest => do
      let (s, rest) ← readLiteral [] rest
      return (.str s, rest)
    | '[' :: rest =>
      if maxDepth ≤ depth + 1 then .error .tooDeep else readArray fuel (depth + 1) [] rest
    | '{' :: rest =>
      if maxDepth ≤ depth + 1 then .error .tooDeep
      else match skipWs rest with
        | '}' :: rest' => .ok (.inline [] false, rest')
        | _ => readInline fuel (depth + 1) [] rest
    | 't' :: 'r' :: 'u' :: 'e' :: rest =>
      match rest with
      | c :: _ => if isDelimiter c then .ok (.bool true, rest) else readBare cs
      | [] => .ok (.bool true, rest)
    | 'f' :: 'a' :: 'l' :: 's' :: 'e' :: rest =>
      match rest with
      | c :: _ => if isDelimiter c then .ok (.bool false, rest) else readBare cs
      | [] => .ok (.bool false, rest)
    | _ => readBare cs

def readArray : Nat → Nat → List TomlValue → List Char → Except TomlError (TomlValue × List Char)
  | 0, _, _, cs => .error (.malformed cs.length)
  | fuel + 1, depth, acc, cs => do
    match ← skipBlankLines (cs.length + 1) cs with
    | ']' :: rest => return (.arr acc.reverse, rest)
    | rest => do
      let (v, rest) ← readValue fuel depth rest
      match ← skipBlankLines (rest.length + 1) rest with
      | ',' :: rest' => readArray fuel depth (v :: acc) rest'
      | ']' :: rest' => return (.arr (v :: acc).reverse, rest')
      | rest' => throw (TomlError.malformed rest'.length)

def readInline : Nat → Nat → List (String × TomlValue) → List Char →
    Except TomlError (TomlValue × List Char)
  | 0, _, _, cs => .error (.malformed cs.length)
  | fuel + 1, depth, acc, cs => do
    let (key, rest) ← readKey (cs.length + 1) cs
    match rest with
    | '=' :: rest' => do
      let (v, rest'') ← readValue fuel depth (skipWs rest')
      let acc ← insertDotted acc key v
      match skipWs rest'' with
      | ',' :: r => readInline fuel depth acc r
      | '}' :: r => return (.inline acc false, r)
      | r => throw (TomlError.malformed r.length)
    | _ => throw (TomlError.malformed rest.length)

end

def modifyMember (ms : List (String × TomlNode)) (k : String)
    (f : Option TomlNode → Except TomlError TomlNode) : Except TomlError (List (String × TomlNode)) :=
  match ms.find? (·.1 == k) with
  | some (_, node) => do
    let node' ← f (some node)
    return ms.map fun m => if m.1 == k then (k, node') else m
  | none => do
    let node ← f none
    return ms ++ [(k, node)]

/-- Applies `f` to the members of the table at a path, descending into the last table of an array of
tables; missing tables are made with the given origin. -/
def atPath (make : TableOrigin) (enter : TableOrigin → Bool)
    (f : List (String × TomlNode) → Except TomlError (List (String × TomlNode))) :
    List String → List (String × TomlNode) → Except TomlError (List (String × TomlNode))
  | [], ms => f ms
  | k :: rest, ms =>
    modifyMember ms k fun
      | none => do return .table make (← atPath make enter f rest [])
      | some (.table o sub) =>
        if enter o then do return .table o (← atPath make enter f rest sub)
        else .error (.duplicate k)
      | some (.tables items) =>
        match items.reverse with
        | last :: before => do
          let last' ← atPath make enter f rest last
          return .tables (before.reverse ++ [last'])
        | [] => .error (.duplicate k)
      | some (.leaf _) => .error (.duplicate k)

def splitLast (path : List String) : List String × String :=
  (path.dropLast, path.getLast?.getD "")

/-- Declares a `[table]` header. -/
def declareTable (path : List String) (root : List (String × TomlNode)) :
    Except TomlError (List (String × TomlNode)) :=
  let (front, last) := splitLast path
  atPath .implicit (fun _ => true) (fun ms => modifyMember ms last fun
    | none => .ok (.table .header [])
    | some (.table .implicit sub) => .ok (.table .header sub)
    | some _ => .error (.duplicate last)) front root

/-- Declares a `[[table]]` header: one more table in the array. -/
def declareArrayTable (path : List String) (root : List (String × TomlNode)) :
    Except TomlError (List (String × TomlNode)) :=
  let (front, last) := splitLast path
  atPath .implicit (fun _ => true) (fun ms => modifyMember ms last fun
    | none => .ok (.tables [[]])
    | some (.tables items) => .ok (.tables (items ++ [[]]))
    | some _ => .error (.duplicate last)) front root

/-- Adds a key with its value to table members; a key is defined once. -/
def insertLeaf (key : String) (v : TomlValue) (ms : List (String × TomlNode)) :
    Except TomlError (List (String × TomlNode)) :=
  modifyMember ms key fun
    | none => .ok (.leaf v)
    | some _ => .error (.duplicate key)

/-- Sets `last` under a dotted prefix. The tables on the way may be new, made by dotted keys or made
on the way to a header, but not named by a header, and the table the key lands in must have been
made by dotted keys. -/
def setDotted (last : String) (v : TomlValue) :
    List String → List (String × TomlNode) → Except TomlError (List (String × TomlNode))
  | [], ms => insertLeaf last v ms
  | [k], ms => modifyMember ms k fun
    | none => do return .table .dotted (← insertLeaf last v [])
    | some (.table .dotted sub) => do return .table .dotted (← insertLeaf last v sub)
    | some _ => .error (.duplicate k)
  | k :: rest, ms => modifyMember ms k fun
    | none => do return .table .dotted (← setDotted last v rest [])
    | some (.table .header _) => .error (.duplicate k)
    | some (.table o sub) => do return .table o (← setDotted last v rest sub)
    | some (.tables items) =>
      match items.reverse with
      | lastItem :: before => do return .tables (before.reverse ++ [← setDotted last v rest lastItem])
      | [] => .error (.duplicate k)
    | some (.leaf _) => .error (.duplicate k)

def setKey (table key : List String) (v : TomlValue) (root : List (String × TomlNode)) :
    Except TomlError (List (String × TomlNode)) :=
  let (front, last) := splitLast key
  atPath .implicit (fun _ => true) (setDotted last v front) table root

/-- Reads the lines of a document into its tree; `table` is the path of the current table. -/
def readLines : Nat → List String → List (String × TomlNode) → List Char →
    Except TomlError (List (String × TomlNode))
  | 0, _, _, cs => .error (.malformed cs.length)
  | fuel + 1, table, root, cs =>
    match skipWs cs with
    | [] => .ok root
    | '\n' :: rest => readLines fuel table root rest
    | '\r' :: '\n' :: rest => readLines fuel table root rest
    | '#' :: rest => do readLines fuel table root (← endOfLine ('#' :: rest))
    | '[' :: '[' :: rest => do
      let (path, rest) ← readKey (rest.length + 1) rest
      match rest with
      | ']' :: ']' :: rest' => do
        let root ← declareArrayTable path root
        readLines fuel path root (← endOfLine rest')
      | _ => throw (TomlError.malformed rest.length)
    | '[' :: rest => do
      let (path, rest) ← readKey (rest.length + 1) rest
      match rest with
      | ']' :: rest' => do
        let root ← declareTable path root
        readLines fuel path root (← endOfLine rest')
      | _ => throw (TomlError.malformed rest.length)
    | line => do
      let (key, rest) ← readKey (line.length + 1) line
      match rest with
      | '=' :: rest' => do
        let (v, rest'') ← readValue (rest'.length + 1) 0 (skipWs rest')
        let root ← setKey table key v root
        readLines fuel table root (← endOfLine rest'')
      | _ => throw (TomlError.malformed rest.length)

def datetimeKey : String := "$__toml_private_datetime"

mutual

def valueToJson : TomlValue → Json
  | .str s => .str s
  | .int i => Json.ofInt i
  | .float x => .ofFloat x
  | .bool b => .bool b
  | .datetime t => .obj [(datetimeKey, .str t)]
  | .arr items => .arr (valuesToJson items)
  | .inline ms _ => .obj (inlineToJson ms)

def valuesToJson : List TomlValue → List Json
  | [] => []
  | v :: rest => valueToJson v :: valuesToJson rest

def inlineToJson : List (String × TomlValue) → List (String × Json)
  | [] => []
  | (k, v) :: rest => (k, valueToJson v) :: inlineToJson rest

end

mutual

def nodeToJson : TomlNode → Json
  | .leaf v => valueToJson v
  | .table _ ms => .obj (membersToJson ms)
  | .tables items => .arr (tablesToJson items)

def membersToJson : List (String × TomlNode) → List (String × Json)
  | [] => []
  | (k, n) :: rest => (k, nodeToJson n) :: membersToJson rest

def tablesToJson : List (List (String × TomlNode)) → List Json
  | [] => []
  | ms :: rest => .obj (membersToJson ms) :: tablesToJson rest

end

/-- Reads a TOML document as a JSON object. -/
def parse (s : String) : Except TomlError Json := do
  let cs := match s.toList with
    | c :: rest => if c.toNat == 0xFEFF then rest else c :: rest
    | [] => []
  let root ← readLines (cs.length + 1) [] [] cs
  return .obj (membersToJson root)

end Toml

end LoadDispatch
