import LoadDispatch.Console.Basic
import LoadDispatch.Settings.Config

/-!
A TOML settings document read into the controller settings and answered with the settings and the
values derived from them; any fault of the document gives one answer.
-/

namespace LoadDispatch

namespace Console

def configRefused : Json := .obj [("error", .str "ConfigParse")]

/-- Settings read from a TOML document. -/
def configOp (req : Json) : Reply Json := do
  let text ← need req "toml" Decoder.string
  match ControllerConfig.ofToml text with
  | .error _ => return configRefused
  | .ok c =>
    return .obj [("config", c.toJson), ("host_prefix", .str (hostPrefix c.controller.instanceId)),
      ("lock_ttl_secs", .ofNat c.dispatch.lockTtlSecs),
      ("agent_timeout_secs", .ofNat c.dispatch.agentTimeoutSecs)]

end Console

end LoadDispatch
