import Detour.Rule.Dispatch

/-!
# What is reported about rules

Registering rules and dispatching requests give reports. A logger turns them into events; a silent
one passes on nothing but warnings.
-/

namespace Detour

/-- Something worth telling about rules. -/
inductive Report where
  | warning (w : Warning)
  | registered (r : Rule)
  | rejected (e : RuleError)
  /-- The rule decided about a request: its address before and after. -/
  | matched (r : Rule) (url target : String)
deriving Repr, Inhabited

inductive Level where
  | error
  | warn
  | info
  | debug
deriving Repr, DecidableEq, Inhabited

/-- A line of a log, with further values by name. -/
structure Event where
  level : Level
  message : String
  fields : List (String × Json)
deriving Repr, Inhabited

/-- How much is told about rules. -/
inductive Logger where
  | silent
  /-- Everything; matches only if `verbose`. -/
  | telling (verbose : Bool)
deriving Repr, DecidableEq, Inhabited

namespace RawRule

/-- The reports of registering a rule. -/
def reports (raw : RawRule) : List Report :=
  match Rule.compile raw with
  | .ok r => (Rule.warnings raw).map .warning ++ [.registered r]
  | .error e => [.rejected e]

end RawRule

/-- The report of a dispatch. -/
def matchReports (rules : List Rule) (v : RequestView) : List Report :=
  match firstApplicable rules v with
  | some r => [.matched r v.url (r.targetFor v)]
  | none => []

namespace Warning

/-- The event of a warning. A further value `error`, with what the regex library says against a
pattern, is left out. -/
def event : Warning → Event
  | conditionPattern condition =>
    ⟨.warn, "Condition pattern does not compile", [("condition", .string condition)]⟩
  | redirectRange redirect =>
    ⟨.warn, "Redirect status out of range, using 302", [("redirect", .string redirect.render)]⟩

end Warning

namespace Logger

def ofOptions (silent verbose : Bool) : Logger :=
  if silent then .silent else .telling verbose

/-- The events for a report. -/
def events (l : Logger) (report : Report) : List Event :=
  match l, report with
  | _, .warning w => [w.event]
  | .silent, _ => []
  | .telling _, .registered r =>
    [⟨.info, "Rewrite rule created", [("rule", .string r.display)]⟩]
  | .telling _, .rejected e =>
    [⟨.error, "Wrong rule given", [("error", .string e.message)]⟩]
  | .telling false, .matched _ _ _ => []
  | .telling true, .matched r url target =>
    [⟨.info, r.action ++ " matched",
      [("condition", .string r.condition.display), ("rule", .string r.display),
        ("from", .string url), ("to", .string target)]⟩]

def allEvents (l : Logger) (reports : List Report) : List Event := reports.flatMap l.events

end Logger

end Detour
