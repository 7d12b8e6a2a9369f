import Detour.Pattern.Escape

/-!
# Bracketed classes

The text between `[` and `]`: single characters, ranges, named classes, nested brackets, and the
operations `&&`, `--` and `~~`, which group from the left and bind alike.
-/

namespace Detour.PatternText

/-- A bracket that is still open: the items since its last operation, latest first, and that
operation with what stands before it. -/
structure OpenClass where
  negated : Bool
  items : List ClassSet
  pending : Option (SetOp × ClassSet)

namespace OpenClass

def push (level : OpenClass) (item : ClassSet) : OpenClass :=
  { level with items := item :: level.items }

/-- What has been read, the last operation carried out. -/
def body (level : OpenClass) : ClassSet :=
  let last := ClassSet.ofItems level.items.reverse
  match level.pending with
  | none => last
  | some (o, left) => .op o left last

/-- An operation takes all that stands before it as its left side. -/
def pushOp (level : OpenClass) (o : SetOp) : OpenClass :=
  { level with items := [], pending := some (o, level.body) }

end OpenClass

/-- The hyphens at the start of a class, which stand for themselves. -/
def leadingHyphens (x : Bool) (cs : List Char) : Nat × List Char :=
  match cs with
  | [] => (0, [])
  | c :: rest =>
    if c = '-' then
      let (n, left) := leadingHyphens x (skipIgnored x rest)
      (n + 1, left)
    else (0, c :: rest)
termination_by cs.length
decreasing_by
  have := length_skipIgnored_le x rest
  simp only [List.length_cons]
  omega

/-- The start of a class after its opening bracket: a negation, then hyphens or a closing bracket
that stand for themselves. -/
def openClass (x : Bool) (cs : List Char) : OpenClass × List Char :=
  let cs := skipIgnored x cs
  let (negated, cs) := match cs with
    | '^' :: rest => (true, skipIgnored x rest)
    | _ => (false, cs)
  let (hyphens, cs) := leadingHyphens x cs
  let items := List.replicate hyphens (.literal ⟨'-', false⟩)
  match hyphens, cs with
  | 0, ']' :: rest => (⟨negated, [.literal ⟨']', false⟩], none⟩, skipIgnored x rest)
  | _, _ => (⟨negated, items, none⟩, cs)

def asciiClassNamed? (name : String) : Option AsciiClass :=
  match name with
  | "alnum" => some .alnum
  | "alpha" => some .alpha
  | "ascii" => some .ascii
  | "blank" => some .blank
  | "cntrl" => some .cntrl
  | "digit" => some .digit
  | "graph" => some .graph
  | "lower" => some .lower
  | "print" => some .print
  | "punct" => some .punct
  | "space" => some .space
  | "upper" => some .upper
  | "word" => some .word
  | "xdigit" => some .xdigit
  | _ => none

/-- A class `[:name:]`, read after its first bracket, if it is one. -/
def readAsciiClass? (cs : List Char) : Option (ClassSet × List Char) :=
  match cs with
  | ':' :: rest =>
    let (negated, rest) := match rest with
      | '^' :: r => (true, r)
      | _ => (false, rest)
    match rest.span (· ≠ ':') with
    | (name, ':' :: ']' :: after) =>
      (asciiClassNamed? (String.ofList name)).map fun kind => (.ascii kind negated, after)
    | _ => none
  | _ => none

/-- One end of a range, or a class that stands alone. -/
def readClassItem (x : Bool) (cs : List Char) : Except PatternError (Node × List Char) :=
  match cs with
  | [] => .error .unclosedClass
  | '\\' :: rest => readEscape x rest
  | c :: rest => .ok (.literal ⟨c, false⟩, rest)

/-- What an item means where it stands alone. -/
def itemSet : Node → Except PatternError ClassSet
  | .literal l => .ok (.literal l)
  | .shorthand kind negated => .ok (.shorthand kind negated)
  | .property query negated => .ok (.property query negated)
  | _ => .error .badEscape

/-- A range between two items, which have to be characters in ascending order. -/
def rangeSet : Node → Node → Except PatternError ClassSet
  | .literal l, .literal m => if l.char ≤ m.char then .ok (.range l m) else .error .badRange
  | _, _ => .error .badRange

/-- The character that decides about a hyphen before it. A comment does not hide its content. -/
def afterHyphen (x : Bool) (cs : List Char) : Option Char :=
  if x then
    match cs.dropWhile Unicode.isWhiteSpace with
    | '#' :: rest => (rest.dropWhile Unicode.isWhiteSpace).head?
    | rest => rest.head?
  else cs.head?

/-- A range, or an item that no hyphen follows. A hyphen before a bracket or before another hyphen
makes no range. -/
def readRange (x : Bool) (cs : List Char) : Except PatternError (ClassSet × List Char) := do
  let (item, rest) ← readClassItem x cs
  match skipIgnored x rest with
  | '-' :: more =>
    if afterHyphen x more = some ']' || afterHyphen x more = some '-' then
      return (← itemSet item, '-' :: more)
    else
      let (last, after) ← readClassItem x (skipIgnored x more)
      return (← rangeSet item last, after)
  | rest => return (← itemSet item, rest)

/-- An operation between sets at the head of the text. -/
def classOp? : List Char → Option (SetOp × List Char)
  | '&' :: '&' :: rest => some (.inter, rest)
  | '-' :: '-' :: rest => some (.diff, rest)
  | '~' :: '~' :: rest => some (.symmDiff, rest)
  | _ => none

/-- Reads on inside the bracket `level`, whose enclosing brackets are `outer`. Every turn takes at
least one character, so the length of the text is fuel enough. -/
def readClassLoop (x : Bool) :
    Nat → OpenClass → List OpenClass → List Char → Except PatternError (Node × List Char)
  | 0, _, _, _ => .error .unclosedClass
  | fuel + 1, level, outer, cs =>
    match skipIgnored x cs with
    | [] => .error .unclosedClass
    | '[' :: rest =>
      match readAsciiClass? rest with
      | some (s, after) => readClassLoop x fuel (level.push s) outer after
      | none =>
        let (inner, after) := openClass x rest
        readClassLoop x fuel inner (level :: outer) after
    | ']' :: rest =>
      match outer with
      | [] => .ok (.bracketed level.negated level.body, rest)
      | parent :: outer =>
        readClassLoop x fuel (parent.push (.bracketed level.negated level.body)) outer rest
    | cs =>
      match classOp? cs with
      | some (o, rest) => readClassLoop x fuel (level.pushOp o) outer rest
      | none =>
        match readRange x cs with
        | .ok (s, rest) => readClassLoop x fuel (level.push s) outer rest
        | .error e => .error e

/-- A bracketed class, read after its opening bracket. -/
def readClass (x : Bool) (cs : List Char) : Except PatternError (Node × List Char) :=
  let (level, rest) := openClass x cs
  readClassLoop x (rest.length + 1) level [] rest

end Detour.PatternText
