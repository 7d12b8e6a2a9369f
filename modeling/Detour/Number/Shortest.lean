import Detour.Number.Binary64

/-!
# Shortest decimals

The decimal with the fewest digits that is still nearer to a number than to its neighbours, and
among those the one nearest to the number.
-/

namespace Detour

/-- The number `digits * 10 ^ exponent`. -/
structure Decimal where
  digits : Nat
  exponent : Int
deriving Repr, DecidableEq, Inhabited

/-- How many decimal digits a natural number has; zero has none. -/
def digitCount (n : Nat) : Nat := if n = 0 then 0 else (Nat.toDigits 10 n).length

/-- Numerator and denominator of `num / den * 10 ^ e`. -/
def scaleTen (num den : Nat) (e : Int) : Nat × Nat :=
  match e with
  | .ofNat n => (num * Nat.pow 10 n, den)
  | .negSucc n => (num, den * Nat.pow 10 (n + 1))

namespace Binary64

/-- The exponent of the first digit of `num / den`. -/
def leadingExponent (num den : Nat) : Int :=
  if num ≥ den then digitCount (num / den) - 1 else -(digitCount ((den - 1) / num) : Int)

/-- A fourth part of the unit in the last binary place, so that the midpoints to the neighbours
are whole multiples of it: the number and the two midpoints in that unit. -/
def quarters (x : Binary64) : Nat × Nat × Nat :=
  let m := 4 * x.mantissa
  let below := if x.mantissa = leastNormal ∧ x.exponent > minExponent then m - 1 else m - 2
  (m, below, m + 2)

/-- Does the decimal `digits * 10 ^ k` read back as the number? The midpoints do if its mantissa
is even. -/
def readsBack (x : Binary64) (digits : Nat) (k : Int) : Bool :=
  let (_, low, high) := x.quarters
  let (n, d) := scaleTen digits 1 k
  let (n, d) := scale n d (2 - x.exponent)
  if x.mantissa % 2 = 0 then low * d ≤ n && n ≤ high * d else low * d < n && n < high * d

/-- The nearest decimal on the grid of the multiples of `10 ^ k` that reads back. Of the two
neighbours on the grid the nearer one is tried first, the even one if both are as near. -/
def onGrid? (x : Binary64) (k : Int) : Option Decimal :=
  let (n, d) := x.quotient
  let (n, d) := scaleTen n d (-k)
  let nearest := roundDiv n d
  let other := if nearest = n / d then n / d + 1 else n / d
  if x.readsBack nearest k then some ⟨nearest, k⟩
  else if x.readsBack other k then some ⟨other, k⟩
  else none

/-- The decimal on the first of the grids, from coarse to fine, that has one which reads back. -/
def firstGrid (x : Binary64) (k : Int) : Nat → Decimal
  | 0 => (x.onGrid? k).getD ⟨0, 0⟩
  | finer + 1 => (x.onGrid? k).getD (firstGrid x (k - 1) finer)

/-- The shortest decimal of the number without its sign. Seventeen digits are always enough. -/
def shortest (x : Binary64) : Decimal :=
  let (n, d) := x.quotient
  if n = 0 then ⟨0, 0⟩ else firstGrid x (leadingExponent n d + 1) 17

end Binary64

end Detour
