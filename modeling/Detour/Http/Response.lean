import Detour.Http.Request
import Detour.Json.Printer

/-!
# Responses
-/

namespace Detour

/-- A response. The length of the body, which is added to the headers when it is sent, is not listed
among them. -/
structure Response where
  status : Nat
  headers : List (String × String)
  body : String
deriving Repr, DecidableEq, Inhabited

namespace Response

/-- A response without headers and body. -/
def bare (status : Nat) : Response := ⟨status, [], ""⟩

/-- A response with a JSON body. -/
def json (status : Nat) (v : Json) : Response :=
  ⟨status, [("content-type", "application/json")], v.render⟩

/-- A redirect to a location. -/
def redirect (status : Nat) (location : String) : Response := ⟨status, [("location", location)], ""⟩

/-- The refusal of a method where only the listed ones are served. -/
def methodNotAllowed (allowed : List String) : Response :=
  ⟨405, [("allow", ",".intercalate allowed)], ""⟩

/-- The first value of a header. -/
def header? (r : Response) (name : String) : Option String :=
  (r.headers.find? fun h => h.1 = name).map Prod.snd

def isSuccess (r : Response) : Bool := 200 ≤ r.status && r.status < 300

/-- The response as it answers a method: the answer to `HEAD`, and that to a successful `CONNECT`,
has no body. -/
def forMethod (r : Response) (method : String) : Response :=
  if method = "HEAD" || (method = "CONNECT" && r.isSuccess) then { r with body := "" } else r

end Response

end Detour
