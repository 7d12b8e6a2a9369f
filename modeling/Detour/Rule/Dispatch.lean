import Detour.Rule.Basic
import Detour.Rule.Template

/-!
# Dispatch

The first rule that applies to a request decides what happens to it.
-/

namespace Detour

/-- What is to be done with a request. -/
inductive Outcome where
  /-- No rule applies. -/
  | pass
  /-- The request goes on under another address. -/
  | reroute (url : String)
  /-- The request is answered by a redirect. -/
  | redirect (status : Nat) (location : String)
deriving Repr, DecidableEq, Inhabited

namespace Rule

/-- The address that the rule gives to a request. -/
def targetFor (r : Rule) (v : RequestView) : String :=
  String.ofList (Template.replaceFirst r.pattern v.url.toList
    (Template.substituteMethod r.target.toList v.method.toList))

/-- What the rule does to a request that it applies to. -/
def outcome (r : Rule) (v : RequestView) : Outcome :=
  match r.redirect with
  | some status => .redirect status (r.targetFor v)
  | none => .reroute (r.targetFor v)

end Rule

/-- The rule that decides about a request. -/
def firstApplicable (rules : List Rule) (v : RequestView) : Option Rule :=
  rules.find? fun r => r.applies v

/-- What the rules make of a request. -/
def dispatch (rules : List Rule) (v : RequestView) : Outcome :=
  match firstApplicable rules v with
  | some r => r.outcome v
  | none => .pass

end Detour
