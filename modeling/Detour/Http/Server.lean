import Detour.Http.Files
import Detour.Http.Rerouting
import Detour.Rule.Store

/-!
# The server

The server dispatches each request over the rules in force, counts the outcome, and hands the
request to what stands behind the rules: a tree of files, or an echo that tells what it received.
-/

namespace Detour

/-- What answers requests after the rules. -/
inductive Handler where
  | echo
  | files (t : FileTree)
deriving Repr, DecidableEq, Inhabited

/-- What the echo tells of a request. -/
def echoOf (r : Request) : Json :=
  let before := match r.reroutedFrom with
    | some uri => [("rewritten_from", Json.string uri.display)]
    | none => []
  Json.ofMembers ([("method", .string r.method), ("url", .string r.uri.display)] ++ before)

namespace Handler

def respond (h : Handler) (r : Request) : Response :=
  let response := match h with
    | echo => Response.json 200 (echoOf r)
    | files t => t.respond r
  response.forMethod r.method

end Handler

/-- How many requests had each kind of outcome. -/
structure Counters where
  pass : Nat
  redirect : Nat
  reroute : Nat
deriving Repr, DecidableEq, Inhabited

namespace Counters

def zero : Counters := ⟨0, 0, 0⟩

def count (c : Counters) : Outcome → Counters
  | .pass => { c with pass := c.pass + 1 }
  | .redirect _ _ => { c with redirect := c.redirect + 1 }
  | .reroute _ => { c with reroute := c.reroute + 1 }

end Counters

/-- A server between two requests. -/
structure Server where
  store : Store
  logger : Logger
  handler : Handler
  counters : Counters
deriving Repr, Inhabited

/-- The answer to a request, with the events on the way and the server after it. -/
structure Served where
  response : Response
  events : List Event
  server : Server
deriving Repr, Inhabited

namespace Server

/-- A server with the given rules, and the events of registering them. -/
def start (raws : List RawRule) (logger : Logger) (handler : Handler) : Server × List Event :=
  (⟨Store.ofRaw raws, logger, handler, .zero⟩, logger.allEvents (raws.flatMap RawRule.reports))

/-- Answers a request. -/
def serve (s : Server) (r : Request) : Served :=
  let outcome := dispatch s.store.rules r.view
  let (action, notice) := r.resolve outcome
  let response := match action with
    | .answer response => response
    | .forward r => s.handler.respond r
  { response := response
    events := s.logger.allEvents (matchReports s.store.rules r.view) ++
      notice.toList.map Notice.event
    server := { s with counters := s.counters.count outcome } }

end Server

end Detour
