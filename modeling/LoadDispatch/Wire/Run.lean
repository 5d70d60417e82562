import LoadDispatch.Json.Decode
import LoadDispatch.Json.Typed
import LoadDispatch.Run.Status
import LoadDispatch.Run.Threads
import LoadDispatch.Run.Outcome
import LoadDispatch.Fleet.Node

/-!
JSON shapes of statuses, script types, strategies, thread configurations and node outcomes.
Enumerations are written by their spellings; records write every field and are read from an object
or from an array of their fields in order.
-/

namespace LoadDispatch

open Shape

namespace ExecutionStatus

def toJson (s : ExecutionStatus) : Json := .str s.text

def decode : Decoder ExecutionStatus := Decoder.unitVariant (all.map fun s => (s.text, s))

def shape : Shape := variant (all.map (·.text)) false

end ExecutionStatus

namespace ScriptType

def toJson (t : ScriptType) : Json := .str t.text

def decode : Decoder ScriptType := Decoder.unitVariant (all.map fun t => (t.text, t))

def shape : Shape := variant (all.map (·.text)) false

end ScriptType

namespace SelectionStrategy

def toJson (s : SelectionStrategy) : Json := .str s.text

def decode : Decoder SelectionStrategy := Decoder.unitVariant (all.map fun s => (s.text, s))

def shape : Shape := variant (all.map (·.text)) false

end SelectionStrategy

namespace RampConfig

def toJson (r : RampConfig) : Json :=
  .obj [("ramp_up_threads", .ofNat r.rampUpThreads), ("ramp_down_threads", .ofNat r.rampDownThreads),
    ("ramp_up_secs", .ofNat r.rampUpSecs), ("ramp_down_secs", .ofNat r.rampDownSecs)]

/-- The shape of a ramp; its durations default to zero. -/
def shape : Shape :=
  record [needed "ramp_up_threads" u32, needed "ramp_down_threads" u32,
    defaulted "ramp_up_secs" u64, defaulted "ramp_down_secs" u64]

def decode : Decoder RampConfig := fun j => do
  let j ← Decoder.record shape.fieldSpecs j
  return { rampUpThreads := ← Decoder.field j "ramp_up_threads" Decoder.u32
           rampDownThreads := ← Decoder.field j "ramp_down_threads" Decoder.u32
           rampUpSecs := ← Decoder.fieldOr j "ramp_up_secs" Decoder.u64 0
           rampDownSecs := ← Decoder.fieldOr j "ramp_down_secs" Decoder.u64 0 }

end RampConfig

namespace ThreadConfig

def toJson (t : ThreadConfig) : Json :=
  .obj [("thread_count", .ofNat t.threadCount), ("iteration_count", .ofNat t.iterationCount),
    ("ramp", Json.opt RampConfig.toJson t.ramp), ("duration_secs", Json.opt Json.ofNat t.durationSecs)]

def shape : Shape :=
  record [needed "thread_count" u32, needed "iteration_count" u32,
    defaulted "ramp" (optional RampConfig.shape), defaulted "duration_secs" (optional u64)]

def decode : Decoder ThreadConfig := fun j => do
  let j ← Decoder.record shape.fieldSpecs j
  return { threadCount := ← Decoder.field j "thread_count" Decoder.u32
           iterationCount := ← Decoder.field j "iteration_count" Decoder.u32
           ramp := ← Decoder.fieldOpt j "ramp" RampConfig.decode
           durationSecs := ← Decoder.fieldOpt j "duration_secs" Decoder.u64 }

end ThreadConfig

namespace OutcomeKind

def toJson (k : OutcomeKind) : Json := .str k.text

def decode : Decoder OutcomeKind := Decoder.unitVariant (all.map fun k => (k.text, k))

def shape : Shape := variant (all.map (·.text)) false

end OutcomeKind

namespace NodeOutcome

def toJson (o : NodeOutcome) : Json :=
  .obj [("node_id", Json.optInt o.nodeId), ("success", .bool o.success), ("kind", o.kind.toJson),
    ("message", .str o.message)]

/-- The shape of a node outcome: the node may be missing from an object, not from an array. -/
def shape : Shape :=
  record [needed "node_id" (optional i64), needed "success" bool, needed "kind" OutcomeKind.shape,
    needed "message" text]

def decode : Decoder NodeOutcome := fun j => do
  let j ← Decoder.record shape.fieldSpecs j
  return { nodeId := ← Decoder.fieldOpt j "node_id" Decoder.i64
           success := ← Decoder.field j "success" Decoder.bool
           kind := ← Decoder.field j "kind" OutcomeKind.decode
           message := ← Decoder.field j "message" Decoder.string }

end NodeOutcome

end LoadDispatch
