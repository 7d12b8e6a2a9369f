import Detour.Unicode.CodeSet

/-!
# Packed tables of code points

A table of ranges is written as text: for each range the gap since the end of the one before and
then its length less one, as numbers in base 32. The digits `0` to `v` end a number, and the 32
signs after them in the list of digits stand for the digits before the last.
-/

namespace Detour

/-- The value of a sign of a packed number, below 32 for a last digit. -/
def packedDigit (c : Char) : Nat :=
  if '0' ≤ c ∧ c ≤ '9' then c.toNat - '0'.toNat
  else if 'a' ≤ c ∧ c ≤ 'z' then c.toNat - 'a'.toNat + 10
  else if 'A' ≤ c ∧ c ≤ 'Z' then c.toNat - 'A'.toNat + 36
  else if c = '+' then 62
  else 63

/-- The numbers that a packed text lists, `acc` being the value of the digits read so far. -/
def packedNumbers (acc : Nat) : List Char → List Nat
  | [] => []
  | c :: cs =>
    let d := packedDigit c
    if d < 32 then (acc * 32 + d) :: packedNumbers 0 cs
    else packedNumbers (acc * 32 + (d - 32)) cs

/-- Ranges from gaps and lengths, the first gap counted from `next`. -/
def rangesOfGaps (next : Nat) : List Nat → List CodeRange
  | gap :: length :: rest =>
    ⟨next + gap, next + gap + length⟩ :: rangesOfGaps (next + gap + length + 1) rest
  | _ => []

/-- The set that a packed text lists, written on several lines; its ranges ascend. -/
def CodeSet.unpack (packed : List String) : CodeSet :=
  ⟨rangesOfGaps 0 (packedNumbers 0 (packed.flatMap String.toList))⟩

/-- A set of code points under the names that a pattern may call it by. The names have lower
case letters, digits and points only. -/
structure NamedSet where
  names : List String
  packed : List String

namespace NamedSet

def set (s : NamedSet) : CodeSet := CodeSet.unpack s.packed

/-- The first set of a table that has the given name. -/
def find? (table : List NamedSet) (name : String) : Option NamedSet :=
  table.find? fun s => s.names.contains name

end NamedSet

end Detour
