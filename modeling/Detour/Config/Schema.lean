import Detour.Rule.Raw

/-!
# The configuration

All settings with their defaults, and the configuration as a JSON value.
-/

namespace Detour

/-- Where requests are received. -/
structure ListenerConfig where
  bindAddress : String := "0.0.0.0:8080"
deriving Repr, DecidableEq, Inhabited

/-- What stands behind the rules. -/
structure ServerConfig where
  /-- The directory whose files are served; without it requests are echoed. -/
  root : Option String := none
  requestTimeoutSecs : Nat := 30
deriving Repr, DecidableEq, Inhabited

/-- What is logged. -/
structure LoggingConfig where
  level : String := "info"
  silent : Bool := false
  verbose : Bool := false
deriving Repr, DecidableEq, Inhabited

/-- Whether and where metrics are shown. -/
structure ObservabilityConfig where
  metricsEnabled : Bool := false
  metricsAddress : String := "0.0.0.0:9090"
deriving Repr, DecidableEq, Inhabited

/-- Whether, with which key and where rules can be changed. -/
structure AdminConfig where
  enabled : Bool := false
  apiKey : String := ""
  bindAddress : String := "127.0.0.1:8081"
deriving Repr, DecidableEq, Inhabited

/-- All settings. -/
structure Config where
  listener : ListenerConfig := {}
  server : ServerConfig := {}
  logging : LoggingConfig := {}
  observability : ObservabilityConfig := {}
  admin : AdminConfig := {}
  rules : List RawRule := []
deriving Repr, Inhabited

namespace Config

def listenerJson (c : ListenerConfig) : Json :=
  Json.ofMembers [("bind_address", .string c.bindAddress)]

def serverJson (c : ServerConfig) : Json :=
  Json.ofMembers [("root", .ofString? c.root), ("request_timeout_secs", .nat c.requestTimeoutSecs)]

def loggingJson (c : LoggingConfig) : Json :=
  Json.ofMembers [("level", .string c.level), ("silent", .bool c.silent),
    ("verbose", .bool c.verbose)]

def observabilityJson (c : ObservabilityConfig) : Json :=
  Json.ofMembers [("metrics_enabled", .bool c.metricsEnabled),
    ("metrics_address", .string c.metricsAddress)]

def adminJson (c : AdminConfig) : Json :=
  Json.ofMembers [("enabled", .bool c.enabled), ("api_key", .string c.apiKey),
    ("bind_address", .string c.bindAddress)]

/-- The configuration as a value. -/
def toJson (c : Config) : Json :=
  Json.ofMembers [("listener", listenerJson c.listener), ("server", serverJson c.server),
    ("logging", loggingJson c.logging), ("observability", observabilityJson c.observability),
    ("admin", adminJson c.admin), ("rules", .array (c.rules.map RawRule.toJson))]

end Config

end Detour
