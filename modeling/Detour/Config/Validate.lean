import Detour.Config.Schema
import Detour.Config.SocketAddress
import Detour.Text.Quoted

/-!
# Checking the configuration

Every problem is reported, in the order of the sections. Rules are not checked: a bad rule is left
out when the rules are registered. What is turned off is not checked either.
-/

namespace Detour

/-- A problem of a configuration. -/
inductive ConfigProblem where
  | invalidAddress (field value : String)
  | missingAdminKey
  | zeroTimeout
deriving Repr, DecidableEq, Inhabited

namespace ConfigProblem

def message : ConfigProblem → String
  | invalidAddress field value => field ++ " is not a valid socket address: " ++ quoted value
  | missingAdminKey => "admin.api_key must be set when the admin API is enabled"
  | zeroTimeout => "server.request_timeout_secs must be greater than zero"

end ConfigProblem

namespace Config

/-- The problem of an address that is none. -/
def addressProblems (field value : String) : List ConfigProblem :=
  if isSocketAddress value then [] else [.invalidAddress field value]

/-- Nothing but white space. -/
def isBlank (s : String) : Bool := s.toList.all Unicode.isWhiteSpace

/-- The problems of a configuration. -/
def problems (c : Config) : List ConfigProblem :=
  addressProblems "listener.bind_address" c.listener.bindAddress ++
  (if c.server.requestTimeoutSecs = 0 then [.zeroTimeout] else []) ++
  (if c.observability.metricsEnabled then
    addressProblems "observability.metrics_address" c.observability.metricsAddress else []) ++
  (if c.admin.enabled then
    addressProblems "admin.bind_address" c.admin.bindAddress ++
      (if isBlank c.admin.apiKey then [.missingAdminKey] else []) else [])

end Config

end Detour
