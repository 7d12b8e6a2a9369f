import Detour.Pattern.Expr

/-!
# Expressions in normal form

The functions that put expressions together keep them simple: sequences and choices are flat, texts
side by side are one text, and a choice between characters is a set. Branches that begin alike share
their beginning, which is then matched before a branch is chosen. So the way to match the beginning
is preferred first, and the branch only after that: in `a*ab|a*b` the repetition takes all it can,
even where the first branch would match if it took less.
-/

namespace Detour.Expr

/-- The expression that matches nothing. -/
def fail : Expr := chars .empty true

/-- One character of a set. The set of a single character is a text. -/
def ofSet (s : CodeSet) (ofBytes : Bool) : Expr :=
  match s.normalize.ranges with
  | [] => fail
  | [r] => if r.first = r.last then text [Char.ofNat r.first] else chars s.normalize ofBytes
  | _ => chars s.normalize ofBytes

/-- A repetition: what matches only the empty text is tried at most once, no repetition at all is
empty, and a single one is the body itself. -/
def ofCounts (min : Nat) (max : Option Nat) (greedy : Bool) (body : Expr) : Expr :=
  let (min, max) :=
    if body.onlyEmpty then (Nat.min min 1, some ((max.map (Nat.min · 1)).getD 1)) else (min, max)
  match min, max with
  | 0, some 0 => empty
  | 1, some 1 => body
  | _, _ => repeated min max greedy body

/-! ## Sequences -/

/-- The items of a sequence; any other expression is its own only item. -/
def items : Expr → List Expr
  | empty => []
  | cat a b => a :: b.items
  | e => [e]

def isSequence : Expr → Bool
  | cat .. => true
  | _ => false

/-- An item put before others, joined with the next if both are texts. -/
def consItem : Expr → List Expr → List Expr
  | text cs, text ds :: rest => text (cs ++ ds) :: rest
  | e, rest => e :: rest

def sequence : List Expr → Expr
  | [] => empty
  | [e] => e
  | e :: es => cat e (sequence es)

/-- The expressions one after the other. -/
def catAll (es : List Expr) : Expr := sequence ((es.flatMap items).foldr consItem [])

/-! ## Choices -/

/-- The branches of a choice; any other expression is its own only branch. -/
def branches : Expr → List Expr
  | alt a b => a :: b.branches
  | e => [e]

def choice : List Expr → Expr
  | [] => fail
  | [e] => e
  | e :: es => alt e (choice es)

/-- The code point of a text of one character. -/
def singleCode? : Expr → Option Nat
  | text [c] => some c.toNat
  | _ => none

def set? : Expr → Option CodeSet
  | chars s _ => some s
  | _ => none

/-- The set that a choice stands for, if all branches are single characters or all are sets. -/
def setOfBranches? (es : List Expr) : Option CodeSet :=
  match es.mapM singleCode? with
  | some codes => some (.ofCodes codes)
  | none => (es.mapM set?).map fun sets => sets.foldl CodeSet.union .empty

/-- A choice between branches that share no beginning. -/
def chooseApart (es : List Expr) : Expr :=
  match es, setOfBranches? es with
  | [e], _ => e
  | _, some s => ofSet s false
  | es, none => choice es

/-- The items that two sequences begin with alike. -/
def commonItems : List Expr → List Expr → List Expr
  | a :: as, b :: bs => if a = b then a :: commonItems as bs else []
  | _, _ => []

/-- The items that all branches begin with alike, if all are sequences. -/
def sharedItems : List Expr → List Expr
  | [] => []
  | e :: es =>
    if (e :: es).all isSequence then es.foldl (fun shared f => commonItems shared f.items) e.items
    else []

/-- The choice between the expressions, the first preferred. -/
def altAll (es : List Expr) : Expr :=
  let es := es.flatMap branches
  match es, setOfBranches? es, sharedItems es with
  | _ :: _ :: _, none, a :: as =>
    let rests := es.map fun e => sequence (e.items.drop (as.length + 1))
    catAll (a :: as ++ [chooseApart (rests.flatMap branches)])
  | es, _, _ => chooseApart es

end Detour.Expr
