import LoadDispatch.Json.Decode
import LoadDispatch.Access.Context
import LoadDispatch.Agent.Reply

/-!
A principal is written `"system"` or `{"user": id}`. An agent reply names the node it comes from,
and readers that know the node let it default.
-/

namespace LoadDispatch

namespace Principal

def toJson : Principal → Json
  | .system => .str "system"
  | .user id => .obj [("user", .ofInt id)]

/-- Reads a principal: `"system"`, or an object with one member, `system` holding `null` or
`user` holding the id. -/
def decode : Decoder Principal := fun j =>
  match j with
  | .str "system" => .ok .system
  | _ =>
    match j.soleMember? with
    | some ("system", .null) => .ok .system
    | some ("user", v) => (Decoder.i64 v).map .user
    | _ => .error .here

end Principal

namespace RequestContext

def toJson (c : RequestContext) : Json :=
  .obj [("principal", c.principal.toJson), ("tenant_id", Json.optInt c.tenantId),
    ("trial_tenant", .bool c.trialTenant)]

def fieldSpecs : List (String × Bool) :=
  [("principal", false), ("tenant_id", false), ("trial_tenant", false)]

/-- Reads a context; an object may leave out the tenant, but not the trial flag. -/
def decode : Decoder RequestContext := fun j => do
  let j ← Decoder.record fieldSpecs j
  return { principal := ← Decoder.field j "principal" Principal.decode
           tenantId := ← Decoder.fieldOpt j "tenant_id" Decoder.i64
           trialTenant := ← Decoder.field j "trial_tenant" Decoder.bool }

end RequestContext

namespace AgentReply

def fieldSpecs : List (String × Bool) :=
  [("success", false), ("device_id", false), ("message", false), ("console", true),
    ("exit_code", false)]

/-- Reads a reply: an object may leave out the device, message and exit code where defaults are
given, and an array gives every field but the console. -/
def decodeWith (device : Int) (message : Option String) (exitCode : Option Int) :
    Decoder AgentReply := fun j => do
  let j ← Decoder.record fieldSpecs j
  let msg ← match message with
    | some m => Decoder.fieldOr j "message" Decoder.string m
    | none => Decoder.field j "message" Decoder.string
  let code ← match exitCode with
    | some c => Decoder.fieldOr j "exit_code" Decoder.i32 c
    | none => Decoder.field j "exit_code" Decoder.i32
  return { success := ← Decoder.field j "success" Decoder.bool
           deviceId := ← Decoder.fieldOr j "device_id" Decoder.i64 device
           message := msg
           console := ← Decoder.fieldOr j "console" (Decoder.list Decoder.string) []
           exitCode := code }

end AgentReply

end LoadDispatch
