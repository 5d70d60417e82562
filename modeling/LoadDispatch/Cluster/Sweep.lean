import LoadDispatch.Cluster.Orchestrator

/-!
A sweep starts again, as the system principal, every live `PENDING` execution tried fewer than
`maxAttempts` times. An attempt counts as started when a node accepted, as deferred when it produced
no acceptance, failed transiently or found a start in flight, and as failed otherwise.
-/

namespace LoadDispatch

structure SweepStats where
  attempted : Nat := 0
  started : Nat := 0
  deferred : Nat := 0
  failed : Nat := 0
  deriving DecidableEq, Repr

def SweepStats.count (st : SweepStats) : Except SchedulingFailure (List NodeOutcome) → SweepStats
  | .ok os =>
    if os.any (·.success) then { st with started := st.started + 1 }
    else { st with deferred := st.deferred + 1 }
  | .error f =>
    match f with
    | .inFlight _ => { st with deferred := st.deferred + 1 }
    | _ => if f.isTransient then { st with deferred := st.deferred + 1 }
      else { st with failed := st.failed + 1 }

/-- Starts again every pending execution below the attempt cap. -/
def sweep (maxAttempts : Nat) : SiteM SweepStats := do
  let ids := (← get).db.pendingForRetry maxAttempts
  ids.foldlM (fun st id => do
    let r ← (Orchestrator.start RequestContext.system { executionId := id }).run
    return ({ st with attempted := st.attempted + 1 } : SweepStats).count r) {}

end LoadDispatch
