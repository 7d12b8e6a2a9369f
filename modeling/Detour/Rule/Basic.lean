import Detour.Rule.Condition
import Detour.Rule.Raw
import Detour.Rule.Redirect
import Detour.Text.Quoted

/-!
# Rules

A rule sends addresses that match its pattern to a target. `Rule.compile` accepts a raw rule or
tells why not; only the pattern and the target can be wrong.
-/

namespace Detour

/-- A rule ready for use. -/
structure Rule where
  condition : Condition
  pattern : Pattern
  target : String
  /-- The status of a redirect; without one the request goes on under the new address. -/
  redirect : Option Nat
deriving Repr, Inhabited

/-- Why a rule is refused. -/
inductive RuleError where
  | missingSource
  | missingTarget
  | invalidPattern (pattern : String) (cause : PatternError)
deriving Repr, DecidableEq, Inhabited

/-- Doubts about a rule that is accepted all the same. -/
inductive Warning where
  /-- The pattern of the condition does not compile. -/
  | conditionPattern (condition : String)
  /-- The redirect denotes a number that is no status. -/
  | redirectRange (redirect : Json)
deriving Repr, Inhabited

namespace RuleError

/-- The text of an error. What the regex library says against a pattern would follow behind a colon;
it is left out here and wherever the text is shown. -/
def message : RuleError → String
  | missingSource => "rule has no \x60from\x60 pattern (expected a non-empty string)"
  | missingTarget => "rule has no \x60to\x60 target (expected a non-empty string)"
  | invalidPattern pattern _ => "invalid \x60from\x60 pattern " ++ quoted pattern

end RuleError

namespace Rule

/-- A value that is a string and not empty. -/
def nonEmpty? : Option Json → Option String
  | some (.string s) => if s.isEmpty then none else some s
  | _ => none

/-- The condition of a raw rule. A value that is true but no string is kept as text that never
holds. -/
def conditionOf (v : Option Json) : Condition :=
  match v with
  | none => .always
  | some (.string s) => Condition.parse s
  | some v => if v.isTruthy then .malformed v.render else .always

/-- The rule, or the reason against it: a missing pattern comes before a missing target, and that
before a pattern that does not compile. -/
def compile (raw : RawRule) : Except RuleError Rule :=
  match nonEmpty? raw.source, nonEmpty? raw.target with
  | none, _ => .error .missingSource
  | some _, none => .error .missingTarget
  | some source, some target =>
    match Pattern.compile source with
    | .error e => .error (.invalidPattern source e)
    | .ok pattern =>
      .ok ⟨conditionOf raw.condition, pattern, target, Redirect.status? raw.redirect⟩

/-- The doubts about a raw rule, if it is accepted. -/
def warnings (raw : RawRule) : List Warning :=
  match compile raw with
  | .error _ => []
  | .ok _ =>
    let condition := match raw.condition with
      | some (.string s) => if Condition.hasBadPattern s then [.conditionPattern s] else []
      | _ => []
    let redirect := match raw.redirect with
      | some v => if Redirect.outOfRange v then [.redirectRange v] else []
      | none => []
    condition ++ redirect

/-- What the rule does, in brief. -/
def action (r : Rule) : String :=
  match r.redirect with
  | some status => "REDIRECT " ++ toString status
  | none => "REWRITE"

def display (r : Rule) : String :=
  "[" ++ r.action ++ ": " ++ r.pattern.source ++ " -> " ++ r.target ++ "]"

/-- Do condition and pattern hold for the request? -/
def applies (r : Rule) (v : RequestView) : Bool :=
  r.condition.holds v && r.pattern.isMatch v.url.toList

end Rule

end Detour
