import LoadDispatch.Json.Decode
import LoadDispatch.Json.Writer

/-!
The console takes one JSON request and gives one JSON answer; a request field that is missing,
mistyped, out of range or not a known spelling is refused as bad input naming the field. Answers
mask what depends on the wall clock or on the wording of the JSON reader.
-/

namespace LoadDispatch

namespace Console

def badInput (field : String) : Json :=
  .obj [("error", .str "bad_input"), ("field", .str field)]

/-- An answer, or the answer that refuses the request. -/
abbrev Reply (α : Type) := Except Json α

def need {α : Type} (req : Json) (key : String) (d : Decoder α) : Reply α :=
  (Decoder.field req key d).mapError fun _ => badInput key

/-- A request field with a default; `null` counts as absent. -/
def withDefault {α : Type} (req : Json) (key : String) (d : Decoder α) (default : α) : Reply α :=
  (Decoder.fieldOpt req key d).map (·.getD default) |>.mapError fun _ => badInput key

/-- A request field read leniently: its value when it reads, the default when it is missing or
does not read. -/
def lenient {α : Type} (req : Json) (key : String) (d : Decoder α) (default : α) : α :=
  match req.get? key with
  | some v => match d v with
    | .ok a => a
    | .error _ => default
  | none => default

/-- A request field that may be missing; when it is given, even as `null`, it must read. -/
def ifGiven {α : Type} (req : Json) (key : String) (d : Decoder α) : Reply (Option α) :=
  match req.get? key with
  | some v => (some <$> d v).mapError fun _ => badInput key
  | none => .ok none

def optional {α : Type} (req : Json) (key : String) (d : Decoder α) : Reply (Option α) :=
  (Decoder.fieldOpt req key d).mapError fun _ => badInput key

def errorAnswer (kind message : String) : Json :=
  .obj [("error", .str kind), ("message", .str message)]

def parseMarker : String := "script is not valid JSON: "

def maskText (s : String) : String :=
  match s.splitOn parseMarker with
  | first :: _ :: _ => first ++ parseMarker ++ "<parse error>"
  | _ => s

def timestampKeys : List String := ["schedule_time", "start_time", "end_time"]

def heartbeatKey : String := "last_heartbeat_ms"

def maskHeartbeat : Json → Json
  | .num (.nat n) => if n == 0 || Nat.pow 2 63 ≤ n then .num (.nat n) else .str "<set>"
  | .num (.negInt _) => .str "<set>"
  | j => j

mutual

/-- Masks clock values and reader wording everywhere in an answer. -/
def mask : Json → Json
  | .str s => .str (maskText s)
  | .arr items => .arr (maskItems items)
  | .obj ms => .obj (maskMembers ms)
  | j => j

def maskItems : List Json → List Json
  | [] => []
  | j :: rest => mask j :: maskItems rest

def maskMembers : List (String × Json) → List (String × Json)
  | [] => []
  | (k, v) :: rest =>
    let v' :=
      if timestampKeys.contains k then (match v with | .null => .null | _ => .str "<set>")
      else if k == heartbeatKey then maskHeartbeat v
      else mask v
    (k, v') :: maskMembers rest

end

end Console

end LoadDispatch
