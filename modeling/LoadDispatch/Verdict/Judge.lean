import LoadDispatch.Verdict.Indicator
import LoadDispatch.Run.Status
import LoadDispatch.Decimal.Render

/-!
Judging a finished run by its script type. A performance run checks response time, throughput and
error rate and reports the first failure; a stability run then checks the node resource limits; a
functional run fails on its first failing case sample; a customized run needs a summary.
-/

namespace LoadDispatch

structure ExecutionCase where
  caseId : Int
  caseName : String
  enabled : Bool := true
  deriving DecidableEq, Repr, Inhabited

/-- The judgment of a run: on failure a reason and, for a resource limit, the node and metric. -/
structure Verdict where
  passed : Bool
  reason : Option String
  usageFailedNodeId : Option Int
  failedMetric : Option UsageMetric
  deriving DecidableEq, Repr, Inhabited

namespace Verdict

def pass : Verdict := ⟨true, none, none, none⟩

def fail (reason : String) : Verdict := ⟨false, some reason, none, none⟩

end Verdict

structure CaseVerdict where
  caseId : Int
  caseName : String
  passed : Option Bool
  reason : Option String
  deriving DecidableEq, Repr, Inhabited

namespace Verdict

/-- Why a run that did not complete failed: its failure message, or its status. -/
def unfinishedReason (status : ExecutionStatus) (failureMessage : Option String) : String :=
  match failureMessage with
  | some m => if m.isEmpty then "execution ended with status " ++ status.text else m
  | none => "execution ended with status " ++ status.text

/-- The indicator and the non-empty summary a threshold check needs. -/
def requiredInputs (indicator : Option Indicator) (samples : RunSamples) :
    Except Verdict (Indicator × SampleSummary) :=
  match indicator with
  | none => .error (fail "indicator missing")
  | some i =>
    match samples.summary with
    | some s => if s.isEmpty then .error (fail "sample summary missing") else .ok (i, s)
    | none => .error (fail "sample summary missing")

def responseTimeFailure (i : Indicator) (s : SampleSummary) : Option String :=
  i.artThresholdMs.bind fun limit =>
    let v := s.value i.artPercentile
    if Binary64.lt limit v then
      some ("response time " ++ i.artPercentile.label ++ " " ++ v.proseText ++
        "ms exceeds threshold " ++ limit.proseText ++ "ms")
    else none

def throughputLow (i : Indicator) (s : SampleSummary) : Option String :=
  i.minTps.bind fun least =>
    if Binary64.lt s.tps least then
      some ("throughput " ++ s.tps.proseText ++ " TPS below minimum " ++ least.proseText ++ " TPS")
    else none

def errorRateHigh (i : Indicator) (s : SampleSummary) : Option String :=
  i.maxErrorRate.bind fun most =>
    if Binary64.lt most s.errorRate then
      some ("error rate " ++ s.errorRate.proseText ++ " exceeds maximum " ++ most.proseText)
    else none

/-- The first failing check of response time, throughput and error rate. -/
def throughputFailure (i : Indicator) (s : SampleSummary) : Option String :=
  [responseTimeFailure i s, throughputLow i s, errorRateHigh i s].findSome? id

def judgePerformance (indicator : Option Indicator) (samples : RunSamples) : Verdict :=
  match requiredInputs indicator samples with
  | .error v => v
  | .ok (i, s) =>
    match throughputFailure i s with
    | some r => fail r
    | none => pass

/-- The first resource of a usage row that is over its limit or has no mean although limited,
with the mean and the limit. -/
def usageBreach (i : Indicator) (u : UsageSummary) :
    Option (UsageMetric × Option Binary64 × Binary64) :=
  [UsageMetric.cpu, .memory, .disk, .network].findSome? fun m =>
    match u.mean m, i.limit m with
    | some mean, some lim => if Binary64.lt lim mean then some (m, some mean, lim) else none
    | none, some lim => some (m, none, lim)
    | _, none => none

def usageFailure (i : Indicator) : List UsageSummary → Option Verdict
  | [] => none
  | u :: rest =>
    match usageBreach i u with
    | some (m, some mean, lim) =>
      some ⟨false, some ("node " ++ toString u.nodeId ++ " " ++ m.label ++ " mean usage " ++
        mean.proseText ++ "% exceeded threshold " ++ lim.proseText ++ "%"), some u.nodeId, some m⟩
    | some (m, none, _) =>
      some ⟨false, some ("node metrics missing: node " ++ toString u.nodeId ++ " reported no " ++
        m.label ++ " usage"), some u.nodeId, some m⟩
    | none => usageFailure i rest

/-- The judgment of a stability run on the nodes it ran on. -/
def judgeStability (indicator : Option Indicator) (samples : RunSamples) (nodeIds : List Int) :
    Verdict :=
  match requiredInputs indicator samples with
  | .error v => v
  | .ok (i, s) =>
    match throughputFailure i s with
    | some r => fail r
    | none =>
      if !i.hasUsageThresholds then pass
      else if samples.usage.isEmpty then fail "node metrics missing"
      else
        match nodeIds.find? (fun n => !samples.usage.any (·.nodeId == n)) with
        | some n =>
          ⟨false, some ("node metrics missing: node " ++ toString n ++ " reported no usage"),
            some n, none⟩
        | none => (usageFailure i samples.usage).getD pass

def caseFailureMessage (c : CaseSample) : String :=
  match c.message with
  | some m => if !m.isEmpty then m
    else if c.success.isNone then "case '" ++ c.caseName ++ "' has no result"
    else "case '" ++ c.caseName ++ "' failed"
  | none =>
    if c.success.isNone then "case '" ++ c.caseName ++ "' has no result"
    else "case '" ++ c.caseName ++ "' failed"

/-- A case sample counts as passed only with `success = true`. -/
def samplePassed (c : CaseSample) : Bool := c.success == some true

def judgeFunctional (cases : List CaseSample) (failureMessage : Option String) : Verdict :=
  if cases.isEmpty then
    match failureMessage with
    | some m => fail (if m.isEmpty then "sample content missing" else m)
    | none => fail "sample content missing"
  else
    match cases.find? (fun c => !samplePassed c) with
    | some c => fail (caseFailureMessage c)
    | none => pass

def judgeCustomized (samples : RunSamples) : Verdict :=
  if samples.summary.isSome then pass else fail "sample summary missing"

/-- The judgment of a run. -/
def judge (scriptType : ScriptType) (status : ExecutionStatus) (failureMessage : Option String)
    (indicator : Option Indicator) (samples : RunSamples) (nodeIds : List Int) : Verdict :=
  if status != .completed then fail (unfinishedReason status failureMessage)
  else
    match scriptType with
    | .performance => judgePerformance indicator samples
    | .stability => judgeStability indicator samples nodeIds
    | .functional => judgeFunctional samples.cases failureMessage
    | .customized => judgeCustomized samples

/-- The judgment of one enabled case of a completed run from the samples of its name. -/
def judgeCase (name : String) (samples : List CaseSample) : Option Bool × Option String :=
  let matching := samples.filter (·.caseName == name)
  if matching.isEmpty then (some false, some ("content missing for case '" ++ name ++ "'"))
  else
    match matching.find? (fun c => !samplePassed c) with
    | some c => (some false, some (caseFailureMessage c))
    | none => (some true, none)

def judgeCases (status : ExecutionStatus) (failureMessage : Option String)
    (cases : List ExecutionCase) (samples : List CaseSample) : List CaseVerdict :=
  cases.map fun c =>
    let (passed, reason) :=
      if !c.enabled then (none, none)
      else if status != .completed then (some false, some (unfinishedReason status failureMessage))
      else judgeCase c.caseName samples
    ⟨c.caseId, c.caseName, passed, reason⟩

end Verdict

structure AssertionSummary where
  total : Nat
  passed : Nat
  failed : Nat
  deriving DecidableEq, Repr, Inhabited

namespace AssertionSummary

def ofSamples (samples : List CaseSample) : AssertionSummary :=
  let passed := (samples.filter Verdict.samplePassed).length
  ⟨samples.length, passed, samples.length - passed⟩

end AssertionSummary

end LoadDispatch
