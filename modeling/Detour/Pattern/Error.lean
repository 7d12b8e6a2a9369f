/-!
# Why a pattern is refused
-/

namespace Detour

/-- The reasons for which a text is no pattern. -/
inductive PatternError where
  /-- A group is still open at the end of the text. -/
  | unclosedGroup
  /-- A closing parenthesis closes nothing. -/
  | unopenedGroup
  /-- A bracket is still open at the end of the text. -/
  | unclosedClass
  /-- A repetition follows nothing that could be repeated. -/
  | nothingToRepeat
  /-- Counts of a repetition that are missing, too large, out of order or unclosed. -/
  | badCounts
  /-- A backslash before something that it gives no meaning to. -/
  | badEscape
  /-- A range whose ends are no characters or out of order. -/
  | badRange
  /-- An empty, malformed or unfinished group name. -/
  | badGroupName
  /-- Two groups have one name. -/
  | repeatedGroupName
  /-- An unknown, repeated or unfinished flag. -/
  | badFlags
  /-- A group that looks ahead or behind. -/
  | lookAround
  /-- No property, category or script has the given name. -/
  | unknownProperty
  /-- A part that could match an incomplete character, or that needs the flag `u`. -/
  | notText
  /-- The nesting is deeper than `Node.maxDepth`. -/
  | tooDeep
  /-- The program would need more than `Expr.maxMemory`. -/
  | tooLarge
deriving Repr, DecidableEq, Inhabited

end Detour
