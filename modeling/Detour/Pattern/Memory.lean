import Detour.Pattern.Normal
import Std.Data.HashSet

/-!
# The memory of a pattern

A pattern must fit into memory as a program over the bytes of UTF-8, for texts that are read
forward and for texts that are read backward. A step of a program takes 32 bytes; a step that
chooses between ranges of bytes takes 8 more for each, and a fork 4 more for each way out.
-/

namespace Detour

/-- The direction in which a program reads a text. -/
inductive Direction where
  | forward
  | backward
deriving Repr, DecidableEq, Inhabited

/-- A closed range of bytes. -/
structure ByteRange where
  first : Nat
  last : Nat
deriving Repr, DecidableEq, Hashable, Inhabited

/-- Ranges that the bytes of a character are taken from, one after the other. -/
abbrev ByteRow := List ByteRange

/-! ## The bytes of a set -/

namespace ByteRow

/-- The rows of the numbers from `first` to `last`, which have `n + 1` digits to the base 64. The
first digit is added to `lead`, the others to 0x80. -/
def ofDigits (lead : Nat) : Nat → Nat → Nat → List ByteRow
  | 0, first, last => [[⟨lead + first, lead + last⟩]]
  | n + 1, first, last =>
    let unit := Nat.pow 64 (n + 1)
    let within (digit lo hi : Nat) : List ByteRow :=
      (ofDigits 0x80 n lo hi).map (⟨lead + digit, lead + digit⟩ :: ·)
    if first / unit = last / unit then within (first / unit) (first % unit) (last % unit)
    else
      let start := (first + unit - 1) / unit
      let stop := (last + 1) / unit
      let low := if first % unit = 0 then [] else within (first / unit) (first % unit) (unit - 1)
      let high := if (last + 1) % unit = 0 then [] else within stop 0 (last % unit)
      let whole : List ByteRow :=
        if start < stop then
          [⟨lead + start, lead + stop - 1⟩ :: List.replicate (n + 1) ⟨0x80, 0xBF⟩]
        else []
      low ++ whole ++ high

/-- The code points of each width in UTF-8, with the number of digits after the first and the mark
of the first. -/
def widths : List (CodeRange × Nat × Nat) :=
  [(⟨0, 0x7F⟩, 0, 0), (⟨0x80, 0x7FF⟩, 1, 0xC0), (⟨0x800, 0xD7FF⟩, 2, 0xE0),
    (⟨0xE000, 0xFFFF⟩, 2, 0xE0), (⟨0x10000, 0x10FFFF⟩, 3, 0xF0)]

/-- The ranges that rows begin with, and the rows that follow each. -/
def followers : List ByteRow → List (ByteRange × List ByteRow)
  | [] => []
  | [] :: rows => followers rows
  | (r :: row) :: rows =>
    match followers rows with
    | (q, tails) :: rest =>
      if r = q then (r, row :: tails) :: rest else (r, [row]) :: (q, tails) :: rest
    | [] => [(r, [row])]

/-- The rows that may be left to read at some place, within `n` bytes. -/
def remainders : Nat → List ByteRow → List (List ByteRow)
  | 0, rows => [rows]
  | n + 1, rows => rows :: (followers rows).flatMap fun f => remainders n f.2

/-- Number of the different beginnings of rows, up to `n` bytes long. -/
def beginnings : Nat → List ByteRow → Nat
  | 0, _ => 0
  | n + 1, rows => ((followers rows).map fun f => beginnings n f.2 + 1).sum

end ByteRow

namespace CodeSet

/-- The rows of a set in ascending order. -/
def byteRows (s : CodeSet) : List ByteRow :=
  s.ranges.flatMap fun r => ByteRow.widths.flatMap fun (w, digits, lead) =>
    let first := max r.first w.first
    let last := min r.last w.last
    if first ≤ last then ByteRow.ofDigits lead digits first last else []

/-- Memory of the steps for one character of a set. Forward, steps with the same rows left are
shared; backward, steps with the same bytes in front of them are. -/
def memory (s : CodeSet) : Direction → Nat
  | .forward =>
    if s.isAscii then 64 + 8 * s.ranges.length
    else
      let steps := (Std.HashSet.ofList (ByteRow.remainders 4 s.byteRows)).toList
      steps.foldl (fun m rows => m + (32 + 8 * (ByteRow.followers rows).length)) 0
  | .backward =>
    if s.isAscii then 64 + 8 * s.ranges.length
    else 64 + 32 * ByteRow.beginnings 4 s.byteRows + 4 * s.byteRows.length

end CodeSet

/-! ## The bytes of a choice between texts -/

/-- The bytes of a text. -/
abbrev ByteWord := List UInt8

namespace ByteWord

/-- The bytes of a text in the order of reading. -/
def ofText (cs : List Char) : Direction → ByteWord
  | .forward => cs.flatMap String.utf8EncodeChar
  | .backward => (cs.flatMap String.utf8EncodeChar).reverse

/-- Words in the stretches between the empty ones. -/
def stretches : List ByteWord → List (List ByteWord)
  | [] => [[]]
  | [] :: words => [] :: stretches words
  | word :: words =>
    match stretches words with
    | s :: rest => (word :: s) :: rest
    | [] => [[word]]

/-- What follows the first byte in words, for each first byte. -/
def afterFirst (words : List ByteWord) : List (List ByteWord) :=
  (words.filterMap List.head?).eraseDups.map fun b =>
    words.filterMap fun
      | c :: word => if c = b then some word else none
      | [] => none

/-- Memory of the steps that tell words of up to `n` bytes apart byte by byte. The words after an
empty one are told apart anew; of empty words in front only the first counts. -/
def memory : Nat → List ByteWord → Nat
  | 0, _ => 0
  | n + 1, words =>
    if words.all List.isEmpty then 0
    else
      let words := match words with
        | [] :: rest => [] :: rest.dropWhile List.isEmpty
        | _ => words
      let parts := (stretches words).map afterFirst
      let ofPart (part : List (List ByteWord)) : Nat :=
        match part with
        | [] => 0
        | [next] => 36 + memory n next
        | _ => 36 + 8 * part.length + (part.map (memory n)).sum
      32 + 4 * (parts.length - 1) + (parts.map ofPart).sum

end ByteWord

namespace Expr

/-- The texts of a choice that has no other branches. -/
def texts? : Expr → Option (List (List Char))
  | text cs => some [cs]
  | alt a b => do return (← a.texts?) ++ (← b.texts?)
  | _ => none

/-! ## The bytes of an expression -/

/-- Is there a set without members in the expression? -/
def hasEmptySet : Expr → Bool
  | chars s _ => s.ranges.isEmpty
  | group _ _ body => body.hasEmptySet
  | cat a b => a.hasEmptySet || b.hasEmptySet
  | alt a b => a.hasEmptySet || b.hasEmptySet
  | repeated _ _ _ body => body.hasEmptySet
  | _ => false

/-- Does every match begin where reading begins, at an end of the text? -/
def isAnchored (d : Direction) : Expr → Bool
  | look l => l = match d with
    | .forward => .textStart
    | .backward => .textEnd
  | group _ _ body => body.isAnchored d
  | cat a b => match d with
    | .forward => a.isAnchored d || (a.onlyEmpty && b.isAnchored d)
    | .backward => b.isAnchored d || (b.onlyEmpty && a.isAnchored d)
  | alt a b => a.isAnchored d && b.isAnchored d
  | repeated min _ _ body => 0 < min && body.isAnchored d
  | _ => false

/-- Is the expression a choice? -/
def isChoice : Expr → Bool
  | alt .. => true
  | _ => false

end Expr

/-- The memory of a part of a program. -/
structure PartMemory where
  /-- The steps alone. -/
  steps : Nat
  /-- The last step is a fork, which will need a way out to what follows. -/
  endsInFork : Bool := false
deriving Repr, DecidableEq, Inhabited

namespace PartMemory

/-- The way out from the last step. -/
def exit (m : PartMemory) : Nat := if m.endsInFork then 4 else 0

/-- Copies one after the other. -/
def copies (m : PartMemory) (n : Nat) : Nat :=
  if n = 0 then 32 else n * m.steps + (n - 1) * m.exit

end PartMemory

namespace Expr

/-- The memory of the steps of an expression. A choice that continues another one is `nested`: only
its branches count then. -/
def partMemory (d : Direction) : Expr → (nested : Bool) → PartMemory
  | empty, _ => { steps := 32 }
  | text cs, _ => { steps := 32 * (ByteWord.ofText cs d).length }
  | chars s _, _ => { steps := s.memory d }
  | look _, _ => { steps := 32 }
  | group _ _ body, _ =>
    let m := body.partMemory d false
    match d with
    | .forward => { steps := m.steps + m.exit + 64 }
    | .backward => m
  | cat a b, _ =>
    let m := a.partMemory d false
    let n := b.partMemory d false
    match d with
    | .forward => { steps := m.steps + m.exit + n.steps, endsInFork := n.endsInFork }
    | .backward => { steps := n.steps + n.exit + m.steps, endsInFork := m.endsInFork }
  | alt a b, nested =>
    let branch (e : Expr) (m : PartMemory) : Nat :=
      if e.isChoice then m.steps else m.steps + m.exit + 4
    let branches := branch a (a.partMemory d true) + branch b (b.partMemory d true)
    if nested then { steps := branches }
    else
      match (alt a b).texts? with
      | some texts =>
        let words := texts.map (ByteWord.ofText · d)
        let longest := words.foldl (fun n word => max n word.length) 0
        { steps := 32 + ByteWord.memory (longest + 1) words }
      | none => { steps := 64 + branches }
  | repeated min max _ body, _ =>
    let m := body.partMemory d false
    match min, max with
    | 0, none =>
      if body.nullable || body.hasEmptySet then { steps := m.steps + m.exit + 112 }
      else { steps := m.steps + m.exit + 36, endsInFork := true }
    | min, none => { steps := m.copies min + m.exit + 36, endsInFork := true }
    | 0, some 1 => { steps := m.steps + m.exit + 72 }
    | min, some max =>
      if min = max then { steps := m.copies min, endsInFork := 0 < min && m.endsInFork }
      else
        { steps := m.copies min + (if min = 0 then 0 else m.exit) + 32
            + (max - min) * (m.steps + m.exit + 40) }

/-- The memory of the program of a pattern. Unless all matches are at the beginning, a loop in
front of it passes over bytes. -/
def memory (e : Expr) (d : Direction) : Nat :=
  let m := (group 0 none e).partMemory d false
  (if e.isAnchored d then 32 else 112) + m.steps + m.exit + 32

/-- The memory that a program may take. -/
def maxMemory : Nat := 10 * 1024 * 1024

/-- Do the programs for both directions fit into memory? -/
def fits (e : Expr) : Bool := e.memory .forward ≤ maxMemory && e.memory .backward ≤ maxMemory

end Expr

end Detour
