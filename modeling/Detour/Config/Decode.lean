import Detour.Config.Schema

/-!
# Reading the configuration from a document

Every section and every field may be missing and then has its default. A field of the wrong type
refuses the whole configuration, except inside a rule, where values of any type may stand.
-/

namespace Detour.Config

/-- A field of a section, its default if it is missing, and nothing if `read` refuses it. -/
def fieldOr {α : Type} (default : α) (read : Json → Option α) (v : Option Json) : Option α :=
  match v with
  | none => some default
  | some v => read v

def text? : Json → Option String
  | .string s => some s
  | _ => none

def flag? : Json → Option Bool
  | .bool b => some b
  | _ => none

/-- A natural number; a whole number written with a point is none. -/
def nat? : Json → Option Nat
  | .int n => if 0 ≤ n then some n.toNat else none
  | _ => none

/-- A text that may be missing. -/
def optionalText? (style : RecordStyle) (v : Json) : Option (Option String) :=
  match style.given v with
  | none => some none
  | some v => (text? v).map some

def listener? (style : RecordStyle) (v : Json) : Option ListenerConfig := do
  let field ← style.fields? ["bind_address"] v
  return { bindAddress := ← fieldOr "0.0.0.0:8080" text? (field "bind_address") }

def server? (style : RecordStyle) (v : Json) : Option ServerConfig := do
  let field ← style.fields? ["root", "request_timeout_secs"] v
  return {
    root := ← fieldOr none (optionalText? style) (field "root")
    requestTimeoutSecs := ← fieldOr 30 nat? (field "request_timeout_secs") }

def logging? (style : RecordStyle) (v : Json) : Option LoggingConfig := do
  let field ← style.fields? ["level", "silent", "verbose"] v
  return {
    level := ← fieldOr "info" text? (field "level")
    silent := ← fieldOr false flag? (field "silent")
    verbose := ← fieldOr false flag? (field "verbose") }

def observability? (style : RecordStyle) (v : Json) : Option ObservabilityConfig := do
  let field ← style.fields? ["metrics_enabled", "metrics_address"] v
  return {
    metricsEnabled := ← fieldOr false flag? (field "metrics_enabled")
    metricsAddress := ← fieldOr "0.0.0.0:9090" text? (field "metrics_address") }

def admin? (style : RecordStyle) (v : Json) : Option AdminConfig := do
  let field ← style.fields? ["enabled", "api_key", "bind_address"] v
  return {
    enabled := ← fieldOr false flag? (field "enabled")
    apiKey := ← fieldOr "" text? (field "api_key")
    bindAddress := ← fieldOr "127.0.0.1:8081" text? (field "bind_address") }

def rules? (style : RecordStyle) : Json → Option (List RawRule)
  | .array items => items.mapM (RawRule.ofValue? style)
  | _ => none

/-- The configuration that a document holds. -/
def ofValue? (style : RecordStyle) (v : Json) : Option Config := do
  let field ←
    style.fields? ["listener", "server", "logging", "observability", "admin", "rules"] v
  return {
    listener := ← fieldOr {} (listener? style) (field "listener")
    server := ← fieldOr {} (server? style) (field "server")
    logging := ← fieldOr {} (logging? style) (field "logging")
    observability := ← fieldOr {} (observability? style) (field "observability")
    admin := ← fieldOr {} (admin? style) (field "admin")
    rules := ← fieldOr [] (rules? style) (field "rules") }

end Detour.Config
