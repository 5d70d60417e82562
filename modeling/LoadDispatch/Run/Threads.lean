/-!
Spread over `n` nodes, each of the four thread counts of a configuration is divided by `n` on its
own and the first shard also takes the remainder, so the shards add up to the whole.
-/

namespace LoadDispatch

/-- Ramping threads up at the start and down at the end of a run. -/
structure RampConfig where
  rampUpThreads : Nat
  rampDownThreads : Nat
  rampUpSecs : Nat := 0
  rampDownSecs : Nat := 0
  deriving DecidableEq, Repr, Inhabited

/-- How much load an execution puts on its nodes. -/
structure ThreadConfig where
  threadCount : Nat
  iterationCount : Nat
  ramp : Option RampConfig := none
  durationSecs : Option Nat := none
  deriving DecidableEq, Repr, Inhabited

/-- One node's part of a count shared by `n` nodes: the quotient, plus the remainder for the
first. -/
def shareOf (n : Nat) (first : Bool) (v : Nat) : Nat :=
  if first then v / n + v % n else v / n

namespace ThreadConfig

/-- The share of a configuration that one of `n` nodes runs; one node or none runs it whole. -/
def shard (c : ThreadConfig) (n : Nat) (first : Bool) : ThreadConfig :=
  if n ≤ 1 then c
  else
    { threadCount := shareOf n first c.threadCount
      iterationCount := shareOf n first c.iterationCount
      ramp := c.ramp.map fun r =>
        { r with
          rampUpThreads := shareOf n first r.rampUpThreads
          rampDownThreads := shareOf n first r.rampDownThreads }
      durationSecs := c.durationSecs }

end ThreadConfig

end LoadDispatch
