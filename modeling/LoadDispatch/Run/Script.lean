import LoadDispatch.Run.Threads
import LoadDispatch.Json.Reader
import LoadDispatch.Json.Writer
import LoadDispatch.Text.Blank

/-!
A script is a JSON object whose `thread_group` member tells the runner how much load to generate.
`applyThreads` sets the managed keys of `thread_group`, keeps every other key and writes the
document back in compact form; a blank script, one that is not JSON and one that is not an object
are refused, in that order.
-/

namespace LoadDispatch

/-- Why a script cannot take a thread configuration. -/
inductive ScriptError where
  | empty
  | parse (detail : String)
  | notAnObject
  deriving DecidableEq, Repr

namespace ScriptError

def message : ScriptError → String
  | .empty => "script body is empty"
  | .parse detail => "script is not valid JSON: " ++ detail
  | .notAnObject => "script must be a JSON object"

def kindName : ScriptError → String
  | .empty => "Empty"
  | .parse _ => "Parse"
  | .notAnObject => "NotAnObject"

end ScriptError

namespace ThreadConfig

def rampKeys : List String := ["ramp_up_threads", "ramp_down_threads", "ramp_up_secs", "ramp_down_secs"]

def writeInto (t : ThreadConfig) (ms : List (String × Json)) : List (String × Json) :=
  let ms := Json.setMember ms "thread_count" (Json.ofNat t.threadCount)
  let ms := Json.setMember ms "iteration_count" (Json.ofNat t.iterationCount)
  let ms := match t.ramp with
    | some r =>
      let ms := Json.setMember ms "ramp_up_threads" (Json.ofNat r.rampUpThreads)
      let ms := Json.setMember ms "ramp_down_threads" (Json.ofNat r.rampDownThreads)
      let ms := Json.setMember ms "ramp_up_secs" (Json.ofNat r.rampUpSecs)
      Json.setMember ms "ramp_down_secs" (Json.ofNat r.rampDownSecs)
    | none => rampKeys.foldl Json.eraseMember ms
  match t.durationSecs with
  | some d => Json.setMember ms "duration_secs" (Json.ofNat d)
  | none => Json.eraseMember ms "duration_secs"

end ThreadConfig

/-- The members of a script's `thread_group` object; a missing or non-object one counts as empty. -/
def threadGroupOf (doc : List (String × Json)) : List (String × Json) :=
  match (Json.obj doc).get? "thread_group" with
  | some (.obj ms) => ms
  | _ => []

/-- Writes a thread configuration into a script. -/
def applyThreads (script : String) (t : ThreadConfig) : Except ScriptError String :=
  if (Text.trimBlank script).isEmpty then .error .empty
  else
    match Json.parse script with
    | .error e => .error (.parse e.message)
    | .ok (.obj doc) =>
      let group := t.writeInto (threadGroupOf doc)
      .ok (Json.obj (Json.setMember doc "thread_group" (.obj group))).render
    | .ok _ => .error .notAnObject

end LoadDispatch
