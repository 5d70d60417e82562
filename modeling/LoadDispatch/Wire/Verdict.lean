import LoadDispatch.Json.Decode
import LoadDispatch.Json.Typed
import LoadDispatch.Verdict.Judge

/-!
Indicators, summaries, usage rows and case samples are read with defaults for every missing field
and written with every field present.
-/

namespace LoadDispatch

open Shape

namespace Percentile

def toJson (p : Percentile) : Json := .str p.key

/-- Reads a percentile: any name, unknown ones meaning the maximum, as a string or as an object
whose one member is named by it and holds `null`. -/
def decode : Decoder Percentile := fun j =>
  match j with
  | .str s => .ok (ofKey s)
  | _ =>
    match j.soleMember? with
    | some (name, .null) => .ok (ofKey name)
    | _ => .error .here

end Percentile

namespace UsageMetric

def toJson (m : UsageMetric) : Json := .str m.key

end UsageMetric

namespace Indicator

def toJson (i : Indicator) : Json :=
  let f := Json.opt Json.ofFloat
  .obj [("art_percentile", i.artPercentile.toJson), ("art_threshold_ms", f i.artThresholdMs),
    ("min_tps", f i.minTps), ("max_error_rate", f i.maxErrorRate), ("cpu_usage", f i.cpuUsage),
    ("memory_usage", f i.memoryUsage), ("disk_usage", f i.diskUsage),
    ("network_usage", f i.networkUsage)]

/-- The shape of an indicator: every field has a default, and the percentile reads every
unknown name as the maximum. -/
def shape : Shape :=
  record (("art_percentile", variant [] true, true) ::
    (["art_threshold_ms", "min_tps", "max_error_rate", "cpu_usage", "memory_usage", "disk_usage",
      "network_usage"].map fun k => defaulted k (optional number)))

def decode : Decoder Indicator := fun j => do
  let j ← Decoder.record shape.fieldSpecs j
  return { artPercentile := ← Decoder.fieldOr j "art_percentile" Percentile.decode .max
           artThresholdMs := ← Decoder.fieldOpt j "art_threshold_ms" Decoder.f64
           minTps := ← Decoder.fieldOpt j "min_tps" Decoder.f64
           maxErrorRate := ← Decoder.fieldOpt j "max_error_rate" Decoder.f64
           cpuUsage := ← Decoder.fieldOpt j "cpu_usage" Decoder.f64
           memoryUsage := ← Decoder.fieldOpt j "memory_usage" Decoder.f64
           diskUsage := ← Decoder.fieldOpt j "disk_usage" Decoder.f64
           networkUsage := ← Decoder.fieldOpt j "network_usage" Decoder.f64 }

end Indicator

namespace SampleSummary

def toJson (s : SampleSummary) : Json :=
  .obj [("samples", .ofNat s.samples), ("tps", .ofFloat s.tps), ("error_rate", .ofFloat s.errorRate),
    ("p50", .ofFloat s.p50), ("p75", .ofFloat s.p75), ("p90", .ofFloat s.p90),
    ("p95", .ofFloat s.p95), ("p99", .ofFloat s.p99), ("p999", .ofFloat s.p999),
    ("max", .ofFloat s.max)]

def shape : Shape :=
  record (defaulted "samples" u64 ::
    (["tps", "error_rate", "p50", "p75", "p90", "p95", "p99", "p999", "max"].map
      fun k => defaulted k number))

def decode : Decoder SampleSummary := fun j => do
  let j ← Decoder.record shape.fieldSpecs j
  let z := Binary64.zero false
  let g (k : String) := Decoder.fieldOr j k Decoder.f64 z
  return { samples := ← Decoder.fieldOr j "samples" Decoder.u64 0
           tps := ← g "tps", errorRate := ← g "error_rate", p50 := ← g "p50", p75 := ← g "p75"
           p90 := ← g "p90", p95 := ← g "p95", p99 := ← g "p99", p999 := ← g "p999"
           max := ← g "max" }

end SampleSummary

namespace UsageSummary

def toJson (u : UsageSummary) : Json :=
  let f := Json.opt Json.ofFloat
  .obj [("node_id", .ofInt u.nodeId), ("cpu_mean", f u.cpuMean), ("memory_mean", f u.memoryMean),
    ("disk_mean", f u.diskMean), ("network_mean", f u.networkMean)]

def shape : Shape :=
  record (needed "node_id" i64 ::
    (["cpu_mean", "memory_mean", "disk_mean", "network_mean"].map
      fun k => defaulted k (optional number)))

def decode : Decoder UsageSummary := fun j => do
  let j ← Decoder.record shape.fieldSpecs j
  return { nodeId := ← Decoder.field j "node_id" Decoder.i64
           cpuMean := ← Decoder.fieldOpt j "cpu_mean" Decoder.f64
           memoryMean := ← Decoder.fieldOpt j "memory_mean" Decoder.f64
           diskMean := ← Decoder.fieldOpt j "disk_mean" Decoder.f64
           networkMean := ← Decoder.fieldOpt j "network_mean" Decoder.f64 }

end UsageSummary

namespace CaseSample

def toJson (c : CaseSample) : Json :=
  .obj [("case_name", .str c.caseName), ("success", Json.opt Json.bool c.success),
    ("message", Json.optStr c.message)]

def shape : Shape :=
  record [needed "case_name" text, defaulted "success" (optional bool),
    defaulted "message" (optional text)]

def decode : Decoder CaseSample := fun j => do
  let j ← Decoder.record shape.fieldSpecs j
  return { caseName := ← Decoder.field j "case_name" Decoder.string
           success := ← Decoder.fieldOpt j "success" Decoder.bool
           message := ← Decoder.fieldOpt j "message" Decoder.string }

end CaseSample

namespace ExecutionCase

def toJson (c : ExecutionCase) : Json :=
  .obj [("case_id", .ofInt c.caseId), ("case_name", .str c.caseName), ("enabled", .bool c.enabled)]

def shape : Shape := record [needed "case_id" i64, needed "case_name" text, defaulted "enabled" bool]

/-- Reads a test case; it is enabled unless it says otherwise. -/
def decode : Decoder ExecutionCase := fun j => do
  let j ← Decoder.record shape.fieldSpecs j
  return { caseId := ← Decoder.field j "case_id" Decoder.i64
           caseName := ← Decoder.field j "case_name" Decoder.string
           enabled := ← Decoder.fieldOr j "enabled" Decoder.bool true }

end ExecutionCase

namespace Verdict

def toJson (v : Verdict) : Json :=
  .obj [("passed", .bool v.passed), ("reason", Json.optStr v.reason),
    ("usage_failed_node_id", Json.optInt v.usageFailedNodeId),
    ("failed_metric", Json.opt UsageMetric.toJson v.failedMetric)]

end Verdict

namespace CaseVerdict

def toJson (v : CaseVerdict) : Json :=
  .obj [("case_id", .ofInt v.caseId), ("case_name", .str v.caseName),
    ("passed", Json.opt Json.bool v.passed), ("reason", Json.optStr v.reason)]

end CaseVerdict

namespace AssertionSummary

def toJson (a : AssertionSummary) : Json :=
  .obj [("total", .ofNat a.total), ("passed", .ofNat a.passed), ("failed", .ofNat a.failed)]

end AssertionSummary

end LoadDispatch
