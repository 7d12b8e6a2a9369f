import Detour.Admin.MediaType
import Detour.Http.Response
import Detour.Rule.Store

/-!
# The administration service

Rules are listed, added and removed over HTTP by whoever holds the key. Without the key nothing is
told of the rules and nothing changed, whatever is asked.
-/

namespace Detour.Admin

/-- The version that the service reports. -/
def version : String := "0.1.0"

/-- A rule as the service shows it. -/
def ruleView (r : Rule) : Json :=
  let condition := match r.condition.text? with
    | some text => [("condition", Json.string text)]
    | none => []
  let redirect := match r.redirect with
    | some status => [("redirect", Json.nat status)]
    | none => []
  Json.ofMembers ([("from", .string r.pattern.source), ("to", .string r.target)] ++
    condition ++ redirect)

/-- Does the request hold the key? An empty key opens nothing. -/
def isAuthorized (key : String) (r : Request) : Bool :=
  !key.isEmpty && r.headerText? "authorization" = some ("Bearer " ++ key)

/-- What a request asks for. -/
inductive Task where
  | status
  | list
  | add
  | clear
deriving Repr, DecidableEq, Inhabited

/-- Largest body of a request, in bytes. -/
def maxBody : Nat := 2 * 1024 * 1024

/-- Does the request say that its body is JSON? -/
def hasJsonBody (r : Request) : Bool :=
  match (r.headerText? "content-type").bind MediaType.parse? with
  | some m => m.isJson
  | none => false

/-- The task of a request, or the answer to one that has none. A `HEAD` asks like a `GET`. -/
def task? (r : Request) : Except Response Task :=
  match r.uri.path with
  | "/admin/status" =>
    match r.method with
    | "GET" => .ok .status
    | "HEAD" => .ok .status
    | _ => .error (.methodNotAllowed ["GET", "HEAD"])
  | "/admin/rules" =>
    match r.method with
    | "GET" => .ok .list
    | "HEAD" => .ok .list
    | "POST" => .ok .add
    | "DELETE" => .ok .clear
    | _ => .error (.methodNotAllowed ["GET", "HEAD", "POST", "DELETE"])
  | _ => .error (.bare 404)

/-- The raw rule in the body of a request, or the answer to a body that holds none. -/
def rawRule? (r : Request) : Except Response RawRule :=
  if !hasJsonBody r then .error (.bare 415)
  else if r.body.utf8ByteSize > maxBody then .error (.bare 413)
  else
    match RawRule.ofText r.body with
    | .ok raw => .ok raw
    | .error .malformed => .error (.bare 400)
    | .error .shape => .error (.bare 422)

/-- The answer to a request, with the events on the way and the store after it. -/
structure Served where
  response : Response
  events : List Event
  store : Store
deriving Repr, Inhabited

/-- Adds a rule. -/
def add (store : Store) (raw : RawRule) : Served :=
  let events := Logger.silent.allEvents raw.reports
  match store.tryRegister raw with
  | .ok store => ⟨.json 201 (Json.ofMembers [("registered", .bool true)]), events, store⟩
  | .error e =>
    ⟨.json 422 (Json.ofMembers [("registered", .bool false), ("error", .string e.message)]),
      events, store⟩

def statusView (store : Store) : Json :=
  Json.ofMembers [("version", .string version), ("status", .string "operational"),
    ("rules", .nat store.size)]

/-- Answers a request that holds the key. -/
def perform (store : Store) (r : Request) : Served :=
  match task? r with
  | .error response => ⟨response, [], store⟩
  | .ok .status => ⟨.json 200 (statusView store), [], store⟩
  | .ok .list => ⟨.json 200 (.array (store.rules.map ruleView)), [], store⟩
  | .ok .clear =>
    ⟨.bare 204, [⟨.info, "All rewrite rules removed via admin API", []⟩], .reset⟩
  | .ok .add =>
    match rawRule? r with
    | .ok raw => add store raw
    | .error response => ⟨response, [], store⟩

/-- The event of a request without the key. -/
def rejection : Event :=
  ⟨.warn, "Rejected admin request with missing or invalid credentials", []⟩

/-- The answer to a request without the key. It still lists the methods of an address that does not
serve that of the request. -/
def refusal (r : Request) : Response :=
  match task? r with
  | .ok _ => .bare 401
  | .error response => { response with status := 401 }

/-- Answers a request. -/
def serve (key : String) (store : Store) (r : Request) : Served :=
  if isAuthorized key r then
    let served := perform store r
    { served with response := served.response.forMethod r.method }
  else ⟨refusal r, [rejection], store⟩

end Detour.Admin
