import Detour.Pattern.Basic
import Detour.Rule.Request
import Detour.Text.Line

/-!
# Conditions

A condition is a line `%{REQUEST_attribute} pattern`, the first such line of its text. A text
without one, or with a pattern that does not compile, is kept and never holds.
-/

namespace Detour

/-- A test on a request that comes before the pattern of a rule. -/
inductive Condition where
  /-- There is no condition. -/
  | always
  /-- The attribute `name` of the request has to match. -/
  | matching (text name : String) (pattern : Pattern)
  /-- The text is no condition. -/
  | malformed (text : String)
deriving Repr, Inhabited

/-- What stands on the line of a condition. -/
structure ConditionLine where
  subject : List Char
  pattern : List Char
deriving Repr, DecidableEq, Inhabited

namespace ConditionLine

def opening : List Char := "%\x7bREQUEST_".toList

/-- A letter, digit or underscore of an attribute's name. -/
def isNameChar (c : Char) : Bool := c.isAlphanum || c = '_'

/-- The line, if it has the form of a condition. Neither of its parts may be empty. -/
def ofLine? (line : List Char) : Option ConditionLine :=
  if opening.isPrefixOf line then
    match (line.drop opening.length).span isNameChar with
    | (a :: name, '\x7d' :: ' ' :: c :: pattern) => some ⟨a :: name, c :: pattern⟩
    | _ => none
  else none

/-- The first line of a text that has the form of a condition. -/
def ofText? (text : List Char) : Option ConditionLine := (splitLines text).findSome? ofLine?

/-- The pattern, with its anchors at the ends of lines. -/
def compile (l : ConditionLine) : Except PatternError Pattern :=
  Pattern.compile (String.ofList ("(?m)".toList ++ l.pattern))

/-- The name of the attribute in lower case. -/
def name (l : ConditionLine) : String := asciiLower (String.ofList l.subject)

end ConditionLine

namespace Condition

/-- The condition that a text writes; the empty text is none. -/
def parse (text : String) : Condition :=
  if text.isEmpty then always
  else
    match ConditionLine.ofText? text.toList with
    | none => malformed text
    | some line =>
      match line.compile with
      | .ok pattern => matching text line.name pattern
      | .error _ => malformed text

/-- The text has the line of a condition whose pattern does not compile. -/
def hasBadPattern (text : String) : Bool :=
  match ConditionLine.ofText? text.toList with
  | none => false
  | some line =>
    match line.compile with
    | .ok _ => false
    | .error _ => true

/-- Does the request satisfy the condition? -/
def holds (r : RequestView) : Condition → Bool
  | always => true
  | matching _ name pattern => (r.value? name).any fun v => pattern.isMatch v.toList
  | malformed _ => false

/-- The text of the condition, if there is one. -/
def text? : Condition → Option String
  | always => none
  | matching text _ _ => some text
  | malformed text => some text

def display (c : Condition) : String := c.text?.getD "No condition"

end Condition

end Detour
