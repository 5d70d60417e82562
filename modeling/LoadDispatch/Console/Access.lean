import LoadDispatch.Console.Pure
import LoadDispatch.Api.Headers

/-!
The request console builds a request context from header pairs as a handler does; a refused context
answers with the handler's 401 reply.
-/

namespace LoadDispatch

namespace Console

def headerPair : Decoder (String × String)
  | .arr [.str n, .str v] => .ok (n, v)
  | _ => .error .here

/-- Reads header pairs into headers, none when the field is absent; malformed names or values are
refused. -/
def headersOf (req : Json) (key : String) : Reply Headers := do
  let pairs ← withDefault req key (Decoder.list headerPair) []
  match Headers.ofPairs pairs with
  | some h => return h
  | none => throw (badInput key)

def rejection (message : String) : Json := Api.envelope false (some message) .null

def contextOp (req : Json) : Reply Json := do
  let headers ← headersOf req "headers"
  let tenant ← optional req "tenant_id" Decoder.i64
  match RequestContext.ofHeaders headers.get? with
  | .error m =>
    return .obj [("error", .str "Rejected"), ("status", .ofNat 401), ("body", rejection m)]
  | .ok ctx =>
    let base := [("context", ctx.toJson), ("system", .bool ctx.isSystem)]
    match tenant with
    | some t => return .obj (base ++ [("may_operate", .bool (ctx.mayOperate t))])
    | none => return .obj base

end Console

end LoadDispatch
