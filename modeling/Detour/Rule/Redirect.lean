import Detour.Json.Value
import Detour.Text.Digit
import Detour.Unicode.CharClass

/-!
# The redirect field

A value that is true in the sense of `Json.isTruthy` makes a rule redirect: with the status that it
denotes, or with 302 if it denotes none between 100 and 999.
-/

namespace Detour

/-- Null, false, zero and the empty string are false, every other value is true. -/
def Json.isTruthy : Json → Bool
  | .null => false
  | .bool b => b
  | .int n => n ≠ 0
  | .float x => !x.isZero
  | .string s => !s.isEmpty
  | .array _ => true
  | .object _ => true

namespace Redirect

/-- The largest number that a redirect may be given as. -/
def maxCode : Nat := 0xffff_ffff_ffff_ffff

/-- The number written by decimal digits with an optional plus sign, if it is not too large. -/
def codeOfDigits? (cs : List Char) : Option Nat :=
  let digits := match cs with
    | '+' :: rest => rest
    | _ => cs
  let n := digitsValue 10 digits
  if digits.isEmpty || !digits.all Char.isDigit || n > maxCode then none else some n

/-- The whole number that a value denotes, written as a number in any way or as digits. A number
beyond the largest one counts as that. -/
def code? : Json → Option Nat
  | .int n => if 0 ≤ n then some n.toNat else none
  | .float x =>
    match x.toNat? with
    | some n => if n ≤ maxCode + 1 then some (min n maxCode) else none
    | none => none
  | .string s => codeOfDigits? (Unicode.trim s.toList)
  | _ => none

/-- A status code that a response may have. -/
def isStatus (n : Nat) : Bool := 100 ≤ n && n ≤ 999

/-- The status of a redirect that gives none. -/
def found : Nat := 302

/-- The status of a rule with the given redirect value, if it redirects at all. -/
def status? (v : Option Json) : Option Nat :=
  match v with
  | none => none
  | some v =>
    if v.isTruthy then some (((code? v).filter isStatus).getD found) else none

/-- The value denotes a number that is no status. -/
def outOfRange (v : Json) : Bool := v.isTruthy && (code? v).any fun n => !isStatus n

end Redirect

end Detour
