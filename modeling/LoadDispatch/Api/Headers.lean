/-!
Header names are tokens and compare without regard to ASCII case; values may hold any character but
the control characters other than tab, and DEL. Of a repeated header the first value counts.
-/

namespace LoadDispatch

/-- Request headers with lowercased names, in arrival order. -/
structure Headers where
  entries : List (String × String)
  deriving DecidableEq, Repr, Inhabited

namespace Headers

def isTokenChar (c : Char) : Bool :=
  c.isAlphanum || "!#$%&'*+-.^_|~".toList.contains c || c.toNat == 96

def validName (n : String) : Bool := !n.isEmpty && n.toList.all isTokenChar

/-- A header value: no control character but tab, and no DEL. -/
def validValue (v : String) : Bool :=
  v.toList.all fun c => c == '\t' || (c.toNat ≥ 32 && c.toNat != 127)

/-- Headers from name and value pairs, if every one is well formed. -/
def ofPairs (pairs : List (String × String)) : Option Headers :=
  if pairs.all fun p => validName p.1 && validValue p.2 then
    some ⟨pairs.map fun p => (p.1.toLower, p.2)⟩
  else none

def get? (h : Headers) (name : String) : Option String :=
  (h.entries.find? (·.1 == name.toLower)).map (·.2)

def push (h : Headers) (name value : String) : Headers := ⟨h.entries ++ [(name.toLower, value)]⟩

def erase (h : Headers) (name : String) : Headers := ⟨h.entries.filter (·.1 != name.toLower)⟩

end Headers

end LoadDispatch
