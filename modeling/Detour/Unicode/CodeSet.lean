/-!
# Sets of code points

A set of characters is a list of closed ranges of code points. `CodeSet.normalize` brings the
ranges into ascending order and joins those that touch; union, complement, intersection and
difference are built on it.
-/

namespace Detour

/-- A closed range of code points. -/
structure CodeRange where
  first : Nat
  last : Nat
deriving Repr, DecidableEq, Inhabited

/-- A set of code points, listed by ranges. -/
structure CodeSet where
  ranges : List CodeRange
deriving Repr, DecidableEq, Inhabited

namespace CodeRange

/-- Is the code point `n` in the range? -/
def contains (r : CodeRange) (n : Nat) : Bool := r.first ≤ n && n ≤ r.last

end CodeRange

namespace CodeSet

/-- The set without members. -/
def empty : CodeSet := ⟨[]⟩

/-- The set of one code point. -/
def single (n : Nat) : CodeSet := ⟨[⟨n, n⟩]⟩

/-- The code points from `first` to `last`. -/
def range (first last : Nat) : CodeSet := ⟨[⟨first, last⟩]⟩

/-- Every code point that is a character: the surrogates are left out. -/
def all : CodeSet := ⟨[⟨0, 0xD7FF⟩, ⟨0xE000, 0x10FFFF⟩]⟩

/-- The first half of the code space, one byte wide in UTF-8. -/
def ascii : CodeSet := range 0 0x7F

/-- Membership in ascending ranges: the scan stops at the first range beyond `n`. -/
def memRanges (n : Nat) : List CodeRange → Bool
  | [] => false
  | r :: rs => if n < r.first then false else if n ≤ r.last then true else memRanges n rs

/-- Membership of a code point in a normalized set. -/
def contains (s : CodeSet) (n : Nat) : Bool := memRanges n s.ranges

/-- Membership of a character in a normalized set. -/
def containsChar (s : CodeSet) (c : Char) : Bool := s.contains c.toNat

/-- Joins the range in hand with the ascending ranges that it touches, then takes up the next. -/
def sweep (current : CodeRange) : List CodeRange → List CodeRange
  | [] => [current]
  | r :: rs =>
    if r.first ≤ current.last + 1 then sweep ⟨current.first, max current.last r.last⟩ rs
    else current :: sweep r rs

/-- The same set with ascending ranges that do not touch. -/
def normalize (s : CodeSet) : CodeSet :=
  match s.ranges.mergeSort (fun a b => a.first ≤ b.first) with
  | [] => empty
  | r :: rs => ⟨sweep r rs⟩

/-- The set listed by pairs of first and last members. -/
def ofPairs (pairs : List (Nat × Nat)) : CodeSet :=
  normalize ⟨pairs.map fun p => ⟨p.1, p.2⟩⟩

/-- The set of the listed code points. -/
def ofCodes (codes : List Nat) : CodeSet := normalize ⟨codes.map fun n => ⟨n, n⟩⟩

def union (s t : CodeSet) : CodeSet := normalize ⟨s.ranges ++ t.ranges⟩

/-- The gaps below, between and above ascending ranges, from `start` up to `limit`. -/
def gaps (start limit : Nat) : List CodeRange → List CodeRange
  | [] => if start ≤ limit then [⟨start, limit⟩] else []
  | r :: rs =>
    if limit < start then []
    else if start < r.first then
      ⟨start, min limit (r.first - 1)⟩ :: gaps (r.last + 1) limit rs
    else gaps (max start (r.last + 1)) limit rs

/-- The code points up to `limit` outside a normalized set. -/
def complementUpTo (limit : Nat) (s : CodeSet) : CodeSet := ⟨gaps 0 limit s.ranges⟩

/-- The code points outside a normalized set; surrogates are in neither. -/
def complement (s : CodeSet) : CodeSet :=
  complementUpTo 0x10FFFF (union s (range 0xD800 0xDFFF))

/-- What two normalized sets share: neither complement holds it. -/
def inter (s t : CodeSet) : CodeSet :=
  complementUpTo 0x10FFFF (union (complementUpTo 0x10FFFF s) (complementUpTo 0x10FFFF t))

def diff (s t : CodeSet) : CodeSet := inter s (complementUpTo 0x10FFFF t)

/-- Members of exactly one of two normalized sets. -/
def symmDiff (s t : CodeSet) : CodeSet := diff (union s t) (inter s t)

/-- No member lies beyond the ASCII half. -/
def isAscii (s : CodeSet) : Bool := s.ranges.all fun r => r.last ≤ 0x7F

/-- Members are listed one by one, for sets small enough to list. -/
def toCodes (s : CodeSet) : List Nat :=
  s.ranges.flatMap fun r => (List.range (r.last + 1 - r.first)).map (r.first + ·)

end CodeSet

end Detour
