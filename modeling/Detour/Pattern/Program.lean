import Detour.Pattern.Expr

/-!
# Programs for matching

An expression becomes a list of instructions. `Expr.emit` appends the instructions of an
expression to a program; when they are done, control falls through to the next address.
-/

namespace Detour

/-- A step of a matching program. -/
inductive Instr where
  /-- Takes one character of the set. -/
  | chars (s : CodeSet)
  /-- Goes on if the test holds. -/
  | look (l : Look)
  /-- Notes the place as the start of a group. -/
  | opens (group : Nat)
  /-- Notes the place as the end of a group. -/
  | closes (group : Nat)
  /-- Goes on at both addresses, the first preferred. -/
  | fork (first second : Nat)
  | jump (target : Nat)
  /-- The text so far is a match. -/
  | accept
deriving Repr, Inhabited

namespace Expr

/-- Number of instructions for an expression. -/
def length : Expr → Nat
  | empty => 0
  | text cs => cs.length
  | chars .. => 1
  | look _ => 1
  | group _ _ body => body.length + 2
  | cat a b => a.length + b.length
  | alt a b => a.length + b.length + 2
  | repeated min none _ body =>
    if min = 0 then body.length + 2 else min * body.length + 1
  | repeated min (some max) _ body =>
    min * body.length + (max - min) * (body.length + 1)

/-- A fork that prefers to go on if greedy, and to leave if not. -/
def branch (greedy : Bool) (go leave : Nat) : Instr :=
  if greedy then .fork go leave else .fork leave go

/-- Appends what `emit` appends, `n` times. -/
def emitCopies (emit : Array Instr → Array Instr) : Nat → Array Instr → Array Instr
  | 0, p => p
  | n + 1, p => emitCopies emit n (emit p)

/-- Appends `n` copies that are tried only as long as the ones before matched; each may be left
for the address `leave`. -/
def emitOptional (emit : Array Instr → Array Instr) (greedy : Bool) (leave : Nat) :
    Nat → Array Instr → Array Instr
  | 0, p => p
  | n + 1, p =>
    emitOptional emit greedy leave n (emit (p.push (branch greedy (p.size + 1) leave)))

/-- Appends the instructions of an expression. An unlimited repetition tests its end after each
turn; only where the body cannot match the empty text may the same fork serve before the first
turn too, for otherwise a turn that matched nothing would hide the preferred ways out. -/
def emit : Expr → Array Instr → Array Instr
  | empty, p => p
  | text cs, p => cs.foldl (fun p c => p.push (.chars (.single c.toNat))) p
  | chars s _, p => p.push (.chars s)
  | look l, p => p.push (.look l)
  | group index _ body, p => (body.emit (p.push (.opens index))).push (.closes index)
  | cat a b, p => b.emit (a.emit p)
  | alt a b, p =>
    let right := p.size + a.length + 2
    let p := a.emit (p.push (.fork (p.size + 1) right))
    b.emit (p.push (.jump (right + b.length)))
  | repeated 0 none greedy body, p =>
    let start := p.size
    if body.nullable then
      let leave := start + body.length + 2
      (body.emit (p.push (branch greedy (start + 1) leave))).push (branch greedy (start + 1) leave)
    else
      (body.emit (p.push (branch greedy (start + 1) (start + body.length + 2)))).push (.jump start)
  | repeated (min + 1) none greedy body, p =>
    let p := emitCopies body.emit min p
    let start := p.size
    (body.emit p).push (branch greedy start (start + body.length + 1))
  | repeated min (some max) greedy body, p =>
    let p := emitCopies body.emit min p
    emitOptional body.emit greedy (p.size + (max - min) * (body.length + 1)) (max - min) p

/-- The program of an expression: the whole match is noted as group 0. -/
def program (e : Expr) : Array Instr :=
  ((e.emit #[.opens 0]).push (.closes 0)).push .accept

end Expr

end Detour
