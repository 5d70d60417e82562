import LoadDispatch.Settings.Toml
import LoadDispatch.Wire.Run

/-!
The settings of one controller instance, section by section, each with its defaults; a document may
leave out any section or key, and unknown keys are ignored. TOML and JSON spell record arrays and
strategies differently (`Spelling`).
-/

namespace LoadDispatch

structure InstanceSettings where
  instanceId : String := "127.0.0.1:8080"
  advertiseHost : String := "127.0.0.1"
  deriving DecidableEq, Repr

structure DispatchSettings where
  lockTtlSecs : Nat := 120
  agentTimeoutSecs : Nat := 60
  defaultStrategy : SelectionStrategy := .roundRobin
  requireLive : Bool := true
  nodeLivenessSecs : Nat := 30
  consoleTailChars : Nat := 1000
  retryIntervalSecs : Nat := 30
  maxScheduleAttempts : Nat := 10
  deriving DecidableEq, Repr

structure TrialSettings where
  maxNodes : Nat := 1
  maxThreads : Nat := 50
  maxIterations : Nat := 1000
  maxDurationSecs : Nat := 600
  deriving DecidableEq, Repr

structure PeerInstance where
  instanceId : String
  host : String
  port : Nat
  deriving DecidableEq, Repr

structure ClusterSettings where
  peers : List PeerInstance := []
  relayTimeoutSecs : Nat := 30
  deriving DecidableEq, Repr

structure LoggingSettings where
  level : String := "info"
  json : Bool := false
  deriving DecidableEq, Repr

/-- All settings of a controller instance. -/
structure ControllerConfig where
  controller : InstanceSettings := {}
  listenAddress : String := "0.0.0.0:8080"
  dbPath : String := "data/testfleet.db"
  dispatch : DispatchSettings := {}
  maxConcurrentExecutions : Nat := 10
  trial : TrialSettings := {}
  cluster : ClusterSettings := {}
  logging : LoggingSettings := {}
  deriving DecidableEq, Repr

/-- The host part of an instance id: the text before its first colon. -/
def hostPrefix (instanceId : String) : String := (instanceId.splitOn ":").headD instanceId

/-- How a settings source spells records written as arrays and unit variants written as tables. -/
structure Spelling where
  /-- Items of a record array past its last field are ignored rather than refused. -/
  extraItemsIgnored : Bool
  /-- What the one member of a table may hold when the table names a unit variant. -/
  unitValue : Json → Bool

namespace Spelling

def json : Spelling := ⟨false, Decoder.isNull⟩

def isEmptyContainer : Json → Bool
  | .arr [] => true
  | .obj [] => true
  | _ => false

/-- TOML documents: lenient record arrays, unit variants as a one-key table holding an empty
array or table. -/
def toml : Spelling := ⟨true, isEmptyContainer⟩

/-- A section under this spelling: every field has a default. -/
def record (sp : Spelling) (fields : List String) : Decoder Json :=
  Decoder.recordWith sp.extraItemsIgnored (fields.map (·, true))

def strictRecord (sp : Spelling) (fields : List String) : Decoder Json :=
  Decoder.recordWith sp.extraItemsIgnored (fields.map (·, false))

def strategy (sp : Spelling) : Decoder SelectionStrategy :=
  Decoder.unitVariantWith sp.unitValue (SelectionStrategy.all.map fun s => (s.text, s))

end Spelling

namespace InstanceSettings

def fields : List String := ["instance_id", "advertise_host"]

def decode (sp : Spelling) (j : Json) : Except DecodeError InstanceSettings := do
  let j ← sp.record fields j
  let d : InstanceSettings := {}
  return { instanceId := ← Decoder.fieldOr j "instance_id" Decoder.string d.instanceId,
           advertiseHost := ← Decoder.fieldOr j "advertise_host" Decoder.string d.advertiseHost }

def toJson (s : InstanceSettings) : Json :=
  .obj [("instance_id", .str s.instanceId), ("advertise_host", .str s.advertiseHost)]

end InstanceSettings

namespace DispatchSettings

def fields : List String :=
  ["lock_ttl_secs", "agent_timeout_secs", "default_strategy", "require_live",
    "node_liveness_secs", "console_tail_chars", "retry_interval_secs", "max_schedule_attempts"]

def decode (sp : Spelling) (j : Json) : Except DecodeError DispatchSettings := do
  let j ← sp.record fields j
  let d : DispatchSettings := {}
  return {
    lockTtlSecs := ← Decoder.fieldOr j "lock_ttl_secs" Decoder.u64 d.lockTtlSecs
    agentTimeoutSecs := ← Decoder.fieldOr j "agent_timeout_secs" Decoder.u64 d.agentTimeoutSecs
    defaultStrategy := ← Decoder.fieldOr j "default_strategy" sp.strategy d.defaultStrategy
    requireLive := ← Decoder.fieldOr j "require_live" Decoder.bool d.requireLive
    nodeLivenessSecs := ← Decoder.fieldOr j "node_liveness_secs" Decoder.u64 d.nodeLivenessSecs
    consoleTailChars := ← Decoder.fieldOr j "console_tail_chars" Decoder.u64 d.consoleTailChars
    retryIntervalSecs := ← Decoder.fieldOr j "retry_interval_secs" Decoder.u64 d.retryIntervalSecs
    maxScheduleAttempts := ← Decoder.fieldOr j "max_schedule_attempts" Decoder.u32 d.maxScheduleAttempts }

def toJson (s : DispatchSettings) : Json :=
  .obj [("lock_ttl_secs", .ofNat s.lockTtlSecs), ("agent_timeout_secs", .ofNat s.agentTimeoutSecs),
    ("default_strategy", s.defaultStrategy.toJson), ("require_live", .bool s.requireLive),
    ("node_liveness_secs", .ofNat s.nodeLivenessSecs),
    ("console_tail_chars", .ofNat s.consoleTailChars),
    ("retry_interval_secs", .ofNat s.retryIntervalSecs),
    ("max_schedule_attempts", .ofNat s.maxScheduleAttempts)]

end DispatchSettings

namespace TrialSettings

def fields : List String := ["max_nodes", "max_threads", "max_iterations", "max_duration_secs"]

def decode (sp : Spelling) (j : Json) : Except DecodeError TrialSettings := do
  let j ← sp.record fields j
  let d : TrialSettings := {}
  return {
    maxNodes := ← Decoder.fieldOr j "max_nodes" Decoder.u32 d.maxNodes
    maxThreads := ← Decoder.fieldOr j "max_threads" Decoder.u32 d.maxThreads
    maxIterations := ← Decoder.fieldOr j "max_iterations" Decoder.u32 d.maxIterations
    maxDurationSecs := ← Decoder.fieldOr j "max_duration_secs" Decoder.u64 d.maxDurationSecs }

def toJson (s : TrialSettings) : Json :=
  .obj [("max_nodes", .ofNat s.maxNodes), ("max_threads", .ofNat s.maxThreads),
    ("max_iterations", .ofNat s.maxIterations), ("max_duration_secs", .ofNat s.maxDurationSecs)]

end TrialSettings

namespace PeerInstance

def fields : List String := ["instance_id", "host", "port"]

def decode (sp : Spelling) (j : Json) : Except DecodeError PeerInstance := do
  let j ← sp.strictRecord fields j
  return { instanceId := ← Decoder.field j "instance_id" Decoder.string,
           host := ← Decoder.field j "host" Decoder.string,
           port := ← Decoder.field j "port" Decoder.u16 }

def toJson (p : PeerInstance) : Json :=
  .obj [("instance_id", .str p.instanceId), ("host", .str p.host), ("port", .ofNat p.port)]

end PeerInstance

namespace ClusterSettings

def fields : List String := ["peers", "relay_timeout_secs"]

def decode (sp : Spelling) (j : Json) : Except DecodeError ClusterSettings := do
  let j ← sp.record fields j
  let d : ClusterSettings := {}
  return {
    peers := ← Decoder.fieldOr j "peers" (Decoder.list (PeerInstance.decode sp)) d.peers
    relayTimeoutSecs := ← Decoder.fieldOr j "relay_timeout_secs" Decoder.u64 d.relayTimeoutSecs }

def toJson (s : ClusterSettings) : Json :=
  .obj [("peers", .list PeerInstance.toJson s.peers),
    ("relay_timeout_secs", .ofNat s.relayTimeoutSecs)]

end ClusterSettings

namespace LoggingSettings

def fields : List String := ["level", "json"]

def decode (sp : Spelling) (j : Json) : Except DecodeError LoggingSettings := do
  let j ← sp.record fields j
  let d : LoggingSettings := {}
  return { level := ← Decoder.fieldOr j "level" Decoder.string d.level,
           json := ← Decoder.fieldOr j "json" Decoder.bool d.json }

def toJson (s : LoggingSettings) : Json :=
  .obj [("level", .str s.level), ("json", .bool s.json)]

end LoggingSettings

namespace ControllerConfig

def sections : List String :=
  ["controller", "network", "storage", "dispatch", "quotas", "trial", "cluster", "logging"]

/-- A section of one field, read with its default. -/
def single {α : Type} (sp : Spelling) (key : String) (d : Decoder α) (default : α) : Decoder α :=
  fun j => do
    let j ← sp.record [key] j
    Decoder.fieldOr j key d default

def decode (sp : Spelling) (j : Json) : Except DecodeError ControllerConfig := do
  let j ← sp.record sections j
  let d : ControllerConfig := {}
  return {
    controller := ← Decoder.fieldOr j "controller" (InstanceSettings.decode sp) d.controller
    listenAddress := ← Decoder.fieldOr j "network"
      (single sp "listen_address" Decoder.string d.listenAddress) d.listenAddress
    dbPath := ← Decoder.fieldOr j "storage" (single sp "db_path" Decoder.string d.dbPath) d.dbPath
    dispatch := ← Decoder.fieldOr j "dispatch" (DispatchSettings.decode sp) d.dispatch
    maxConcurrentExecutions := ← Decoder.fieldOr j "quotas"
      (single sp "max_concurrent_executions" Decoder.u32 d.maxConcurrentExecutions)
      d.maxConcurrentExecutions
    trial := ← Decoder.fieldOr j "trial" (TrialSettings.decode sp) d.trial
    cluster := ← Decoder.fieldOr j "cluster" (ClusterSettings.decode sp) d.cluster
    logging := ← Decoder.fieldOr j "logging" (LoggingSettings.decode sp) d.logging }

def toJson (c : ControllerConfig) : Json :=
  .obj [("controller", c.controller.toJson),
    ("network", .obj [("listen_address", .str c.listenAddress)]),
    ("storage", .obj [("db_path", .str c.dbPath)]),
    ("dispatch", c.dispatch.toJson),
    ("quotas", .obj [("max_concurrent_executions", .ofNat c.maxConcurrentExecutions)]),
    ("trial", c.trial.toJson), ("cluster", c.cluster.toJson), ("logging", c.logging.toJson)]

/-- Why a settings document was refused. -/
inductive LoadError where
  | malformed (e : TomlError)
  | shape (e : DecodeError)

/-- Reads settings from a TOML document. -/
def ofToml (text : String) : Except LoadError ControllerConfig :=
  match Toml.parse text with
  | .error e => .error (.malformed e)
  | .ok j => (decode .toml j).mapError .shape

end ControllerConfig

end LoadDispatch
