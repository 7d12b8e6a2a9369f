import Detour.Pattern.Meaning
import Detour.Pattern.Memory
import Detour.Pattern.Search

/-!
# Patterns

A compiled pattern and what a search with it gives: the span of the leftmost match and the spans of
its groups, counted in characters.
-/

namespace Detour

/-- A part of a text, from the character number `start` up to but not including `stop`. -/
structure Span where
  start : Nat
  stop : Nat
deriving Repr, DecidableEq, Inhabited

/-- A match: its span, and those of the groups 1, 2, … that took part in it. -/
structure Match where
  whole : Span
  groups : List (Option Span)
deriving Repr, DecidableEq, Inhabited

/-- A pattern ready for use. -/
structure Pattern where
  source : String
  program : Array Instr
  /-- Number of the last capturing group. -/
  groupCount : Nat
  /-- The named groups with their numbers. -/
  names : List (String × Nat)
deriving Repr, Inhabited

namespace Span

/-- The part of the text. -/
def slice (s : Span) (text : List Char) : List Char := (text.take s.stop).drop s.start

/-- The text before the part. -/
def before (s : Span) (text : List Char) : List Char := text.take s.start

/-- The text after the part. -/
def after (s : Span) (text : List Char) : List Char := text.drop s.stop

end Span

namespace Mark

/-- The latest mark of a group's start or end. -/
def latest (group : Nat) (isStart : Bool) (marks : List Mark) : Option Nat :=
  (marks.find? fun m => m.group = group && m.isStart = isStart).map Mark.position

/-- The span of the last time that a group took part. -/
def span (marks : List Mark) (group : Nat) : Option Span :=
  match latest group true marks, latest group false marks with
  | some start, some stop => some ⟨start, stop⟩
  | _, _ => none

end Mark

namespace Pattern

/-- The pattern of an expression, unless its program would be too large. -/
def ofExpr (source : String) (e : Expr) : Except PatternError Pattern :=
  if e.fits then
    .ok {
      source := source
      program := e.program
      groupCount := e.groups.foldl (fun n g => max n g.1) 0
      names := e.groups.filterMap fun g => g.2.map fun name => (name, g.1) }
  else .error .tooLarge

/-- The pattern that a text writes. -/
def compile (source : String) : Except PatternError Pattern := do
  let node ← Node.ofText source.toList
  let (e, _) ← node.meaning {}
  ofExpr source e

/-- The leftmost match in a text. -/
def find? (p : Pattern) (text : List Char) : Option Match :=
  match search p.program text with
  | none => none
  | some marks =>
    (Mark.span marks 0).map fun whole =>
      ⟨whole, (List.range p.groupCount).map fun i => Mark.span marks (i + 1)⟩

/-- Does the pattern match somewhere in the text? -/
def isMatch (p : Pattern) (text : List Char) : Bool := (p.find? text).isSome

/-- The number of a named group. -/
def groupNamed? (p : Pattern) (name : String) : Option Nat :=
  (p.names.find? fun n => n.1 = name).map Prod.snd

end Pattern

end Detour
