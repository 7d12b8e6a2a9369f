import Detour.Http.Response
import Detour.Rule.Log

/-!
# Applying an outcome to a request

A rerouted request goes on under its new address, a redirected one is answered. Where the target
cannot stand in an address or in a header, the request goes on unchanged.
-/

namespace Detour

/-- What is done with a request. -/
inductive Action where
  | forward (r : Request)
  | answer (r : Response)
deriving Repr, DecidableEq, Inhabited

/-- What is reported of it. -/
inductive Notice where
  | rerouted (before after : Uri)
  | redirecting (uri : Uri) (location : String) (status : Nat)
  | badTarget (target : String)
  | badLocation (location : String)
deriving Repr, DecidableEq, Inhabited

namespace Notice

/-- The event of a notice. A further value `error`, with what the library says against an address
or a header value, is left out. -/
def event : Notice → Event
  | rerouted before after =>
    ⟨.debug, "Request rewritten", [("from", .string before.display), ("to", .string after.display)]⟩
  | redirecting uri location status =>
    ⟨.debug, "Redirecting",
      [("from", .string uri.display), ("location", .string location), ("status", .nat status)]⟩
  | badTarget target =>
    ⟨.error, "Rewrite target is not a valid URI, passing through",
      [("target_url", .string target)]⟩
  | badLocation location =>
    ⟨.error, "Redirect target is not a valid header value, passing through",
      [("location", .string location)]⟩

end Notice

namespace Request

/-- The request under the address that a target writes, which keeps scheme and authority. -/
def rerouted? (r : Request) (target : String) : Option Request := do
  let uri ← r.uri.withTarget? (← PathAndQuery.parse? target)
  return { r with uri := uri, reroutedFrom := some r.uri }

/-- What an outcome does to the request, and what is reported. -/
def resolve (r : Request) : Outcome → Action × Option Notice
  | .pass => (.forward r, none)
  | .reroute target =>
    match r.rerouted? target with
    | some r' => (.forward r', some (.rerouted r.uri r'.uri))
    | none => (.forward r, some (.badTarget target))
  | .redirect status location =>
    if isFieldValue location then
      (.answer (.redirect status location), some (.redirecting r.uri location status))
    else (.forward r, some (.badLocation location))

end Request

end Detour
