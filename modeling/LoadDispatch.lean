import LoadDispatch.Access.Context
import LoadDispatch.Agent.Reply
import LoadDispatch.Agent.Router
import LoadDispatch.Api.Envelope
import LoadDispatch.Api.Headers
import LoadDispatch.Api.Routes
import LoadDispatch.Api.Target
import LoadDispatch.Cluster.Orchestrator
import LoadDispatch.Cluster.Relay
import LoadDispatch.Cluster.Requests
import LoadDispatch.Cluster.Site
import LoadDispatch.Cluster.Sweep
import LoadDispatch.Console.Access
import LoadDispatch.Console.Basic
import LoadDispatch.Console.Line
import LoadDispatch.Console.Pure
import LoadDispatch.Console.Scenario
import LoadDispatch.Console.Settings
import LoadDispatch.Console.World
import LoadDispatch.Decimal.Binary64
import LoadDispatch.Decimal.Render
import LoadDispatch.Decimal.Shortest
import LoadDispatch.Fleet.Node
import LoadDispatch.Fleet.Registry
import LoadDispatch.Fleet.Selector
import LoadDispatch.Json.Decode
import LoadDispatch.Json.Reader
import LoadDispatch.Json.Typed
import LoadDispatch.Json.Value
import LoadDispatch.Json.Writer
import LoadDispatch.Main
import LoadDispatch.Run.Outcome
import LoadDispatch.Run.Script
import LoadDispatch.Run.Status
import LoadDispatch.Run.Threads
import LoadDispatch.Scheduling.Failure
import LoadDispatch.Settings.Config
import LoadDispatch.Settings.Toml
import LoadDispatch.Store.Executions
import LoadDispatch.Store.Lock
import LoadDispatch.Store.Reread
import LoadDispatch.Store.Results
import LoadDispatch.Store.Tables
import LoadDispatch.Text.Blank
import LoadDispatch.Verdict.Indicator
import LoadDispatch.Verdict.Judge
import LoadDispatch.Wire.Access
import LoadDispatch.Wire.Run
import LoadDispatch.Wire.Store
import LoadDispatch.Wire.Timestamp
import LoadDispatch.Wire.Verdict
import LoadDispatch.Proofs.Operations
import LoadDispatch.Proofs.Selection
import LoadDispatch.Proofs.Dispatch
import LoadDispatch.Proofs.Shares
import LoadDispatch.Proofs.Rounds
import LoadDispatch.Proofs.Conservation
import LoadDispatch.Proofs.Tables
import LoadDispatch.Proofs.Lock
import LoadDispatch.Proofs.RoundEffects
import LoadDispatch.Proofs.Exclusion
import LoadDispatch.Proofs.StartRecord
import LoadDispatch.Proofs.Relaying
import LoadDispatch.Proofs.Stopping
import LoadDispatch.Proofs.Serving
import LoadDispatch.Proofs.Settled
import LoadDispatch.Proofs.Quota
import LoadDispatch.Proofs.ResultHistory
import LoadDispatch.Proofs.Refusals
import LoadDispatch.Proofs.MemberOrder
import LoadDispatch.Proofs.NumeralText
import LoadDispatch.Proofs.ReadBack
import LoadDispatch.Proofs.ScriptRewrite
import LoadDispatch.Proofs.ScriptConsistency
import LoadDispatch.Proofs.Routes
import LoadDispatch.Proofs.Relayed
import LoadDispatch.Proofs.Release
import LoadDispatch.Proofs.Completion
import LoadDispatch.Proofs.RouteInterleaving
import LoadDispatch.Proofs.TrialCaps
import LoadDispatch.Proofs.RelayHops
import LoadDispatch.Proofs.Confinement
import LoadDispatch.Proofs.Isolation
import LoadDispatch.Proofs.NormalForm
import LoadDispatch.Proofs.ExactReadBack
import LoadDispatch.Proofs.ThreadOverride
import LoadDispatch.Proofs.StabilityJudgement
import LoadDispatch.Proofs.CaseJudgement
import LoadDispatch.Proofs.LooserThresholds
import LoadDispatch.Proofs.SampleStore
import LoadDispatch.Proofs.CompletionRecord
import LoadDispatch.Proofs.SelectionAnswer
import LoadDispatch.Proofs.RoundRobin
import LoadDispatch.Proofs.IdleBalance
import LoadDispatch.Proofs.RetryBound
import LoadDispatch.Proofs.ReplyClassification
import LoadDispatch.Proofs.MillisecondArithmetic
import LoadDispatch.Proofs.BatchDelete
import LoadDispatch.Proofs.Interleaving
