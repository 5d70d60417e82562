import LoadDispatch.Json.Value

/-!
Every answer of the HTTP API is an envelope: a success flag, the payload (`null` when there is none)
and a message, left out when there is none.
-/

namespace LoadDispatch

namespace Api

def envelope (success : Bool) (message : Option String) (data : Json) : Json :=
  match message with
  | some m => .obj [("success", .bool success), ("message", .str m), ("data", data)]
  | none => .obj [("success", .bool success), ("data", data)]

end Api

end LoadDispatch
