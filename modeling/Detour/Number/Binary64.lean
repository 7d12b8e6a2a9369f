/-!
# Binary floating-point numbers

Finite numbers with 53 binary digits, held exactly as sign, mantissa and exponent.
`roundQuotient` rounds a quotient of natural numbers to the nearest one, a tie to the even
mantissa; product, quotient and reading of decimals are that rounding of the exact result.
-/

namespace Detour

/-- The number `mantissa * 2 ^ exponent`, negated if `negative`. Zero has either sign. -/
structure Binary64 where
  negative : Bool
  mantissa : Nat
  exponent : Int
deriving Repr, DecidableEq, Inhabited

namespace Binary64

/-- The least exponent, and the one of zero. -/
def minExponent : Int := -1074

/-- The greatest exponent of a finite number. -/
def maxExponent : Int := 971

/-- The least mantissa of 53 binary digits. -/
def leastNormal : Nat := Nat.pow 2 52

def zero (negative : Bool) : Binary64 := ⟨negative, 0, minExponent⟩

def isZero (x : Binary64) : Bool := x.mantissa = 0

/-- Numerator and denominator of `num / den * 2 ^ e`. -/
def scale (num den : Nat) (e : Int) : Nat × Nat :=
  match e with
  | .ofNat n => (num * Nat.pow 2 n, den)
  | .negSucc n => (num, den * Nat.pow 2 (n + 1))

/-- The quotient rounded to a whole number, a tie to the even one. -/
def roundDiv (num den : Nat) : Nat :=
  let q := num / den
  let r := num % den
  if 2 * r < den then q
  else if den < 2 * r then q + 1
  else if q % 2 = 0 then q
  else q + 1

/-- The exponent for which `num / den` has 53 digits before the point, if the number is not too
small for that. -/
def exponentFor (num den : Nat) : Int :=
  let e : Int := (num.log2 : Int) - (den.log2 : Int) - 53
  let (n, d) := scale num den (-e)
  max minExponent (if n / d < 2 * leastNormal then e else e + 1)

/-- The number nearest to `num / den`, or nothing if that is too large. -/
def roundQuotient (negative : Bool) (num den : Nat) : Option Binary64 :=
  if num = 0 then some (zero negative)
  else
    let e := exponentFor num den
    let (n, d) := scale num den (-e)
    let m := roundDiv n d
    let (m, e) := if m = 2 * leastNormal then (leastNormal, e + 1) else (m, e)
    if e > maxExponent then none else some ⟨negative, m, e⟩

/-- Numerator and denominator of the number without its sign. -/
def quotient (x : Binary64) : Nat × Nat := scale x.mantissa 1 x.exponent

def ofNat (n : Nat) : Option Binary64 := roundQuotient false n 1

/-- The product, or nothing if it is too large. -/
def mul (x y : Binary64) : Option Binary64 :=
  let (xn, xd) := x.quotient
  let (yn, yd) := y.quotient
  roundQuotient (x.negative != y.negative) (xn * yn) (xd * yd)

/-- The quotient, or nothing if it is too large or `y` is zero. -/
def div (x y : Binary64) : Option Binary64 :=
  let (xn, xd) := x.quotient
  let (yn, yd) := y.quotient
  if yn = 0 then none else roundQuotient (x.negative != y.negative) (xn * yd) (xd * yn)

/-- The number nearest to `digits * 10 ^ exponent`. -/
def ofDecimal (negative : Bool) (digits : Nat) (exponent : Int) : Option Binary64 :=
  match exponent with
  | .ofNat n => roundQuotient negative (digits * Nat.pow 10 n) 1
  | .negSucc n => roundQuotient negative digits (Nat.pow 10 (n + 1))

/-- The whole number that the number equals, if it is one and not negative. -/
def toNat? (x : Binary64) : Option Nat :=
  let (n, d) := x.quotient
  if x.isZero then some 0
  else if x.negative || n % d ≠ 0 then none
  else some (n / d)

end Binary64

end Detour
