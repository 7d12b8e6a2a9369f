import Detour.Pattern.Program

/-!
# Search

The search runs a program over a text and keeps all ways to match at once, in the order of their
preference. A way that reaches an address where a preferred one already stands is dropped, so the
time is linear in the text. `search` finds the leftmost match, and of those the preferred one.
-/

namespace Detour

/-- A place of a text where a group starts or ends. -/
structure Mark where
  group : Nat
  isStart : Bool
  position : Nat
deriving Repr, DecidableEq, Inhabited

/-- A way to match up to some place: where it goes on, and the marks it made, latest first. -/
structure Thread where
  address : Nat
  marks : List Mark
deriving Repr, Inhabited

/-- The text around a place: its position and the characters before and after it. -/
structure Place where
  position : Nat
  before : Option Char
  after : Option Char
deriving Repr, Inhabited

/-- Threads that wait at a place: those that take a character or accept, best first, and the
addresses that have been reached. -/
structure Waiting where
  reached : Array Bool
  threads : List Thread

/-- Follows the threads of the list to the instructions that take a character or accept. Every
address is expanded once, and an expansion adds at most one thread, so the number of threads
and addresses together is fuel enough. -/
def settle (program : Array Instr) (place : Place) :
    Nat → List Thread → Waiting → Waiting
  | 0, _, w => w
  | _, [], w => w
  | fuel + 1, t :: rest, w =>
    if w.reached.getD t.address true then settle program place fuel rest w
    else
      let w := { w with reached := w.reached.setIfInBounds t.address true }
      let note (group : Nat) (isStart : Bool) : List Thread :=
        ⟨t.address + 1, ⟨group, isStart, place.position⟩ :: t.marks⟩ :: rest
      match program[t.address]? with
      | none => settle program place fuel rest w
      | some (.chars _) => settle program place fuel rest { w with threads := t :: w.threads }
      | some .accept => settle program place fuel rest { w with threads := t :: w.threads }
      | some (.look l) =>
        if l.holds place.before place.after then
          settle program place fuel (⟨t.address + 1, t.marks⟩ :: rest) w
        else settle program place fuel rest w
      | some (.opens group) => settle program place fuel (note group true) w
      | some (.closes group) => settle program place fuel (note group false) w
      | some (.fork first second) =>
        settle program place fuel (⟨first, t.marks⟩ :: ⟨second, t.marks⟩ :: rest) w
      | some (.jump target) => settle program place fuel (⟨target, t.marks⟩ :: rest) w

/-- The threads that wait at a place, best first. -/
def waitingAt (program : Array Instr) (place : Place) (threads : List Thread) : List Thread :=
  (settle program place (threads.length + 2 * program.size + 1) threads
    ⟨Array.replicate program.size false, []⟩).threads.reverse

/-- The threads preferred to the first accepting one, and that one's marks. -/
def cutAtAccept (program : Array Instr) : List Thread → List Thread × Option (List Mark)
  | [] => ([], none)
  | t :: rest =>
    match program[t.address]? with
    | some .accept => ([], some t.marks)
    | _ =>
      let (live, found) := cutAtAccept program rest
      (t :: live, found)

/-- The thread after the character `c`, if it takes it. -/
def Thread.advance (program : Array Instr) (c : Char) (t : Thread) : Option Thread :=
  match program[t.address]? with
  | some (.chars s) => if s.containsChar c then some ⟨t.address + 1, t.marks⟩ else none
  | _ => none

/-- The threads that go on from a place, and the best match so far. As long as nothing has been
found, a new thread starts at every place, behind all others; what is found later belongs to a
preferred thread. -/
def arrive (program : Array Instr) (place : Place) (threads : List Thread)
    (found : Option (List Mark)) : List Thread × Option (List Mark) :=
  let threads := if found.isNone then threads ++ [⟨0, []⟩] else threads
  let (live, better) := cutAtAccept program (waitingAt program place threads)
  (live, better.orElse fun _ => found)

/-- Runs the threads over the rest of the text, until none is left that could find a better
match. -/
def runThreads (program : Array Instr) (position : Nat) (before : Option Char)
    (threads : List Thread) (found : Option (List Mark)) : List Char → Option (List Mark)
  | [] => (arrive program ⟨position, before, none⟩ threads found).2
  | c :: rest =>
    let (live, found) := arrive program ⟨position, before, some c⟩ threads found
    if live.isEmpty && found.isSome then found
    else
      runThreads program (position + 1) (some c) (live.filterMap (Thread.advance program c))
        found rest

/-- The marks of the leftmost match in a text. -/
def search (program : Array Instr) (text : List Char) : Option (List Mark) :=
  runThreads program 0 none [] none text

end Detour
