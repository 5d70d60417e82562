import LoadDispatch.Text.Blank

/-!
Who is asking: the system or a user, the tenant it acts for and whether that tenant is on a trial
plan, read from the `x-principal`, `x-tenant-id` and `x-trial-tenant` headers. The system may
operate on every execution, a user only on those of its own tenant.
-/

namespace LoadDispatch

/-- The one on whose behalf a request acts. -/
inductive Principal where
  | user (id : Int)
  | system
  deriving DecidableEq, Repr, Inhabited

/-- The principal, its tenant and whether the tenant is on a trial plan. -/
structure RequestContext where
  principal : Principal
  tenantId : Option Int
  trialTenant : Bool
  deriving DecidableEq, Repr, Inhabited

namespace RequestContext

def system : RequestContext := ⟨.system, none, false⟩

def isSystem (c : RequestContext) : Bool := c.principal == .system

/-- The system may operate on every tenant's executions, a user on its own tenant's. -/
def mayOperate (c : RequestContext) (tenant : Int) : Bool := c.isSystem || c.tenantId == some tenant

end RequestContext

def principalHeader : String := "x-principal"

def tenantHeader : String := "x-tenant-id"

def trialTenantHeader : String := "x-trial-tenant"

def parseI64 (s : String) : Option Int :=
  let digits (cs : List Char) : Option Nat :=
    if !cs.isEmpty && cs.all Char.isDigit then
      some (cs.foldl (fun n c => n * 10 + (c.toNat - '0'.toNat)) 0)
    else none
  let v : Option Int := match s.toList with
    | '-' :: cs => (digits cs).map fun n => -(n : Int)
    | '+' :: cs => (digits cs).map fun n => (n : Int)
    | cs => (digits cs).map fun n => (n : Int)
  v.bind fun i => if -Int.pow 2 63 ≤ i ∧ i < Int.pow 2 63 then some i else none

def equalsIgnoringCase (a b : String) : Bool :=
  a.length == b.length && (a.toList.zip b.toList).all fun p => p.1.toLower == p.2.toLower

/-- Reads a principal: `system` in any case, or `user:` and an id with blanks around it. -/
def parsePrincipal (raw : String) : Option Principal :=
  if equalsIgnoringCase raw "system" then some .system
  else if raw.startsWith "user:" then
    (parseI64 (Text.trimBlank (String.ofList (raw.toList.drop 5)))).map .user
  else none

def isVisibleText (v : String) : Bool :=
  v.toList.all fun c => (c.toNat ≥ 32 && c.toNat < 127) || c == '\t'

/-- The context from the first value of each header, or the reason it is refused. -/
def RequestContext.ofHeaders (lookup : String → Option String) : Except String RequestContext := do
  let text (name : String) : Except String (Option String) :=
    match lookup name with
    | some v => if isVisibleText v then .ok (some v) else .error (name ++ " is not valid text")
    | none => .ok none
  let raw ← match (← text principalHeader) with
    | some r => pure r
    | none => throw ("missing " ++ principalHeader ++ " header")
  let principal ← match parsePrincipal raw with
    | some p => pure p
    | none => throw ("unrecognised principal '" ++ raw ++ "'")
  let tenant ← match (← text tenantHeader) with
    | some r =>
      match parseI64 (Text.trimBlank r) with
      | some t => pure (some t)
      | none => throw ("invalid " ++ tenantHeader ++ " '" ++ r ++ "'")
    | none => pure none
  let trial := match (← text trialTenantHeader) with
    | some v => ["1", "true", "yes"].contains (Text.trimBlank v)
    | none => false
  return ⟨principal, tenant, trial⟩

end LoadDispatch
