import LoadDispatch.Decimal.Binary64

/-!
An indicator holds the thresholds a run must meet. Samples are what a run reports back: a summary of
its requests, the mean resource usage of each node and one sample per executed test case.
-/

namespace LoadDispatch

inductive Percentile where
  | p50
  | p75
  | p90
  | p95
  | p99
  | p999
  | max
  deriving DecidableEq, Repr, Inhabited

namespace Percentile

def key : Percentile → String
  | .p50 => "p50"
  | .p75 => "p75"
  | .p90 => "p90"
  | .p95 => "p95"
  | .p99 => "p99"
  | .p999 => "p999"
  | .max => "max"

def label : Percentile → String
  | .p50 => "P50"
  | .p75 => "P75"
  | .p90 => "P90"
  | .p95 => "P95"
  | .p99 => "P99"
  | .p999 => "P999"
  | .max => "MAX"

/-- Reads a percentile; every unknown spelling means the maximum. -/
def ofKey (s : String) : Percentile :=
  ([Percentile.p50, .p75, .p90, .p95, .p99, .p999].find? (·.key == s)).getD .max

end Percentile

inductive UsageMetric where
  | cpu
  | memory
  | disk
  | network
  deriving DecidableEq, Repr, Inhabited

namespace UsageMetric

def key : UsageMetric → String
  | .cpu => "cpu"
  | .memory => "memory"
  | .disk => "disk"
  | .network => "network"

def label : UsageMetric → String
  | .cpu => "CPU"
  | .memory => "memory"
  | .disk => "disk"
  | .network => "network"

end UsageMetric

/-- The thresholds a run is judged against; an unset threshold is not checked. -/
structure Indicator where
  artPercentile : Percentile := .max
  artThresholdMs : Option Binary64 := none
  minTps : Option Binary64 := none
  maxErrorRate : Option Binary64 := none
  cpuUsage : Option Binary64 := none
  memoryUsage : Option Binary64 := none
  diskUsage : Option Binary64 := none
  networkUsage : Option Binary64 := none
  deriving DecidableEq, Repr, Inhabited

namespace Indicator

def hasUsageThresholds (i : Indicator) : Bool :=
  i.cpuUsage.isSome || i.memoryUsage.isSome || i.diskUsage.isSome || i.networkUsage.isSome

def limit (i : Indicator) : UsageMetric → Option Binary64
  | .cpu => i.cpuUsage
  | .memory => i.memoryUsage
  | .disk => i.diskUsage
  | .network => i.networkUsage

end Indicator

/-- The summary of the requests of a run; zero samples means there is none. -/
structure SampleSummary where
  samples : Nat := 0
  tps : Binary64 := Binary64.zero false
  errorRate : Binary64 := Binary64.zero false
  p50 : Binary64 := Binary64.zero false
  p75 : Binary64 := Binary64.zero false
  p90 : Binary64 := Binary64.zero false
  p95 : Binary64 := Binary64.zero false
  p99 : Binary64 := Binary64.zero false
  p999 : Binary64 := Binary64.zero false
  max : Binary64 := Binary64.zero false
  deriving DecidableEq, Repr, Inhabited

namespace SampleSummary

def value (s : SampleSummary) : Percentile → Binary64
  | .p50 => s.p50
  | .p75 => s.p75
  | .p90 => s.p90
  | .p95 => s.p95
  | .p99 => s.p99
  | .p999 => s.p999
  | .max => s.max

def isEmpty (s : SampleSummary) : Bool := s.samples == 0

end SampleSummary

structure UsageSummary where
  nodeId : Int
  cpuMean : Option Binary64 := none
  memoryMean : Option Binary64 := none
  diskMean : Option Binary64 := none
  networkMean : Option Binary64 := none
  deriving DecidableEq, Repr, Inhabited

namespace UsageSummary

def mean (u : UsageSummary) : UsageMetric → Option Binary64
  | .cpu => u.cpuMean
  | .memory => u.memoryMean
  | .disk => u.diskMean
  | .network => u.networkMean

end UsageSummary

/-- The result of one executed test case; a case without a result has no `success`. -/
structure CaseSample where
  caseName : String
  success : Option Bool := none
  message : Option String := none
  deriving DecidableEq, Repr, Inhabited

/-- All that a run reports: the summary, per-node usage and per-case samples. -/
structure RunSamples where
  summary : Option SampleSummary := none
  usage : List UsageSummary := []
  cases : List CaseSample := []
  deriving DecidableEq, Repr, Inhabited

end LoadDispatch
