import Detour.Pattern.Error
import Detour.Text.Digit
import Detour.Unicode.CharClass

/-!
# Reading the pieces of a pattern

Small readers over the rest of a pattern's text. Where the flag `x` is on, white space and comments
between the pieces do not count; `skipIgnored` passes over them.
-/

namespace Detour.PatternText

/-- Passes over white space and comments, from inside a comment if `comment` is set. -/
def skipBlanks (comment : Bool) : List Char → List Char
  | [] => []
  | c :: cs =>
    if comment then skipBlanks (c ≠ '\n') cs
    else if Unicode.isWhiteSpace c then skipBlanks false cs
    else if c = '#' then skipBlanks true cs
    else c :: cs

/-- Passes over what the flag `x` makes meaningless, if it is on. -/
def skipIgnored (x : Bool) (cs : List Char) : List Char :=
  if x then skipBlanks false cs else cs

theorem length_skipBlanks_le (comment : Bool) (cs : List Char) :
    (skipBlanks comment cs).length ≤ cs.length := by
  induction cs generalizing comment with
  | nil => simp [skipBlanks]
  | cons c cs ih =>
    have h := ih
    rw [skipBlanks]
    split
    · exact Nat.le_succ_of_le (h _)
    · split
      · exact Nat.le_succ_of_le (h _)
      · split
        · exact Nat.le_succ_of_le (h _)
        · exact Nat.le_refl _

theorem length_skipIgnored_le (x : Bool) (cs : List Char) :
    (skipIgnored x cs).length ≤ cs.length := by
  unfold skipIgnored
  split
  · exact length_skipBlanks_le _ _
  · exact Nat.le_refl _

/-- The leading characters with the property `p`, and the rest. -/
def spanIgnoring (p : Char → Bool) (x : Bool) (cs : List Char) : List Char × List Char :=
  match cs with
  | [] => ([], [])
  | c :: rest =>
    if p c then
      let (taken, left) := spanIgnoring p x (skipIgnored x rest)
      (c :: taken, left)
    else ([], c :: rest)
termination_by cs.length
decreasing_by
  have := length_skipIgnored_le x rest
  simp only [List.length_cons]
  omega

/-- The character with the given code point, if that is a character. -/
def charOfCode? (n : Nat) : Option Char :=
  if h : n.isValidChar then some (Char.ofNatAux n h) else none

/-- A count below 2^32 with blanks around it, and the rest. -/
def readCount (x : Bool) (cs : List Char) : Except PatternError (Nat × List Char) :=
  let (digits, rest) := spanIgnoring Char.isDigit x (cs.dropWhile Unicode.isWhiteSpace)
  let (_, rest) := spanIgnoring Unicode.isWhiteSpace x rest
  if digits.isEmpty || digitsValue 10 digits > 0xffff_ffff then .error .badCounts
  else .ok (digitsValue 10 digits, rest)

/-- A character written by exactly `n` hexadecimal digits. -/
def readHexDigits (x : Bool) (code : Nat) : Nat → List Char → Except PatternError (Char × List Char)
  | 0, cs =>
    match charOfCode? code with
    | some c => .ok (c, cs)
    | none => .error .badEscape
  | n + 1, cs =>
    match cs with
    | [] => .error .badEscape
    | c :: rest =>
      match digitValue? 16 c with
      | some d => readHexDigits x (code * 16 + d) n (skipIgnored x rest)
      | none => .error .badEscape

/-- A character written by hexadecimal digits up to a closing brace. -/
def readBracedHex (x : Bool) (cs : List Char) : Except PatternError (Char × List Char) :=
  match spanIgnoring (· ≠ '\x7d') x (skipIgnored x cs) with
  | (_, []) => .error .badEscape
  | (digits, _ :: rest) =>
    if digits.isEmpty || !digits.all (isDigitIn 16) then .error .badEscape
    else
      match charOfCode? (digitsValue 16 digits) with
      | some c => .ok (c, skipIgnored x rest)
      | none => .error .badEscape

end Detour.PatternText
