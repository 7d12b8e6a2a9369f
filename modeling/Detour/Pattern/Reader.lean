import Detour.Pattern.Brackets

/-!
# Reading a pattern

`Node.ofText` reads a whole pattern. Open groups are kept on a stack; each turn of the loop takes
one piece of the text.
-/

namespace Detour.PatternText

/-- A group that is still open, with what stands before it in the surrounding text. -/
structure OpenGroup where
  kind : GroupKind
  ignoreSpace : Bool
  items : List Node
  branches : List Node

/-- What has been read: items of the current branch and earlier branches, latest first, and the
open groups, innermost first. -/
structure Reading where
  ignoreSpace : Bool
  items : List Node
  branches : List Node
  outer : List OpenGroup
  /-- Number of capturing groups so far. -/
  captures : Nat
  names : List String

namespace Reading

def start : Reading := ⟨false, [], [], [], 0, []⟩

def push (r : Reading) (n : Node) : Reading := { r with items := n :: r.items }

/-- What stands in the current group. -/
def body (r : Reading) : Node :=
  Node.ofBranches ((Node.ofItems r.items.reverse :: r.branches).reverse)

/-- A bar ends the current branch. -/
def nextBranch (r : Reading) : Reading :=
  { r with items := [], branches := Node.ofItems r.items.reverse :: r.branches }

/-- Opens a group in which white space counts or not. -/
def openGroup (r : Reading) (kind : GroupKind) (inner : Bool) : Reading :=
  { r with
    ignoreSpace := inner
    items := []
    branches := []
    outer := ⟨kind, r.ignoreSpace, r.items, r.branches⟩ :: r.outer }

/-- Closes the innermost group. -/
def closeGroup (r : Reading) : Except PatternError Reading :=
  match r.outer with
  | [] => .error .unopenedGroup
  | g :: outer =>
    .ok { r with
      ignoreSpace := g.ignoreSpace
      items := .group g.kind r.body :: g.items
      branches := g.branches
      outer := outer }

/-- Repeats the last item. -/
def repeatLast (r : Reading) (counts : Counts) (greedy : Bool) : Except PatternError Reading :=
  match r.items with
  | n :: items =>
    if n.isRepeatable then .ok { r with items := .repetition counts greedy n :: items }
    else .error .nothingToRepeat
  | [] => .error .nothingToRepeat

/-- The whole pattern, if every group is closed. -/
def finish (r : Reading) : Except PatternError Node :=
  if r.outer.isEmpty then .ok r.body else .error .unclosedGroup

end Reading

/-- A lazy mark after a repetition, if there is one. -/
def readLazy (cs : List Char) : Bool × List Char :=
  match cs with
  | '?' :: rest => (true, rest)
  | _ => (false, cs)

/-- The counts between braces, read after the opening one, and whether they are greedy. -/
def readCounts (x : Bool) (cs : List Char) :
    Except PatternError (Counts × Bool × List Char) := do
  let (min, rest) ← readCount x (skipIgnored x cs)
  let (max, rest) ← match rest with
    | ',' :: rest =>
      match skipIgnored x rest with
      | '\x7d' :: rest => pure (none, '\x7d' :: rest)
      | rest => do
        let (max, rest) ← readCount x rest
        pure (some max, rest)
    | rest => pure (some min, rest)
  match rest with
  | '\x7d' :: rest =>
    let (isLazy, rest) := readLazy (skipIgnored x rest)
    if max.any (· < min) then throw .badCounts
    return (⟨min, max⟩, !isLazy, rest)
  | _ => throw .badCounts

def flagOf? : Char → Option Flag
  | 'i' => some .ignoreCase
  | 'm' => some .multiLine
  | 's' => some .dotMatchesNewLine
  | 'U' => some .swapGreed
  | 'u' => some .unicode
  | 'R' => some .crlf
  | 'x' => some .ignoreSpace
  | _ => none

/-- Flags up to a colon or a closing parenthesis, which is left unread. No flag may stand twice, and
at most one hyphen, not at the end, turns off what follows it. -/
def readFlags (on : Bool) (dangling : Bool) (seen : List FlagSetting) :
    List Char → Except PatternError (List FlagSetting × List Char)
  | [] => .error .badFlags
  | c :: rest =>
    if c = ':' || c = ')' then
      if dangling then .error .badFlags else .ok (seen.reverse, c :: rest)
    else if c = '-' then
      if on then readFlags false true seen rest else .error .badFlags
    else
      match flagOf? c with
      | none => .error .badFlags
      | some f =>
        if seen.any fun s => s.flag = f then .error .badFlags
        else readFlags on false (⟨f, on⟩ :: seen) rest

/-- What the settings say about white space, `old` if nothing. -/
def ignoreSpaceAfter (old : Bool) (settings : List FlagSetting) : Bool :=
  match settings.find? fun s => s.flag = .ignoreSpace with
  | some s => s.on
  | none => old

def isNameStart (c : Char) : Bool := c = '_' || Unicode.letters.containsChar c

def isNameRest (c : Char) : Bool :=
  c = '_' || c = '.' || c = '[' || c = ']' || Unicode.lettersAndNumbers.containsChar c

/-- A group name up to its closing angle bracket. -/
def readGroupName (cs : List Char) : Except PatternError (String × List Char) :=
  match cs.span (· ≠ '>') with
  | (c :: name, _ :: rest) =>
    if isNameStart c && name.all isNameRest then .ok (String.ofList (c :: name), rest)
    else .error .badGroupName
  | _ => .error .badGroupName

/-- Opens a capturing group under the next number. -/
def openCapture (r : Reading) (name : Option String) : Reading :=
  let r := { r with captures := r.captures + 1 }
  r.openGroup (.capture r.captures name) r.ignoreSpace

def openNamed (r : Reading) (cs : List Char) : Except PatternError (Reading × List Char) := do
  let (name, rest) ← readGroupName cs
  if r.names.contains name then throw .repeatedGroupName
  return (openCapture { r with names := name :: r.names } (some name), rest)

/-- What a parenthesis opens: a group of one of three kinds, or flags for the rest of the group
around it. -/
def readGroup (r : Reading) (cs : List Char) : Except PatternError (Reading × List Char) :=
  match skipIgnored r.ignoreSpace cs with
  | '?' :: '=' :: _ => .error .lookAround
  | '?' :: '!' :: _ => .error .lookAround
  | '?' :: '<' :: '=' :: _ => .error .lookAround
  | '?' :: '<' :: '!' :: _ => .error .lookAround
  | '?' :: 'P' :: '<' :: rest => openNamed r rest
  | '?' :: '<' :: rest => openNamed r rest
  | '?' :: rest => do
    let (settings, rest) ← readFlags true false [] rest
    let inner := ignoreSpaceAfter r.ignoreSpace settings
    match rest with
    | ':' :: rest => return (r.openGroup (.plain settings) inner, rest)
    | rest =>
      if settings.isEmpty then throw .nothingToRepeat
      return ({ r.push (.flags settings) with ignoreSpace := inner }, rest.drop 1)
  | rest => .ok (openCapture r none, rest)

/-- One piece of the text, which begins with the character `c`. -/
def readPiece (r : Reading) (c : Char) (rest : List Char) :
    Except PatternError (Reading × List Char) :=
  match c with
  | '(' => readGroup r rest
  | ')' => r.closeGroup.map fun r => (r, rest)
  | '|' => .ok (r.nextBranch, rest)
  | '[' => (readClass r.ignoreSpace rest).map fun (n, rest) => (r.push n, rest)
  | '?' =>
    let (isLazy, rest) := readLazy rest
    (r.repeatLast ⟨0, some 1⟩ !isLazy).map fun r => (r, rest)
  | '*' =>
    let (isLazy, rest) := readLazy rest
    (r.repeatLast ⟨0, none⟩ !isLazy).map fun r => (r, rest)
  | '+' =>
    let (isLazy, rest) := readLazy rest
    (r.repeatLast ⟨1, none⟩ !isLazy).map fun r => (r, rest)
  | '\x7b' => do
    let (counts, greedy, rest) ← readCounts r.ignoreSpace rest
    return (← r.repeatLast counts greedy, rest)
  | '\\' => (readEscape r.ignoreSpace rest).map fun (n, rest) => (r.push n, rest)
  | '.' => .ok (r.push .dot, rest)
  | '^' => .ok (r.push (.assertion .lineStart), rest)
  | '$' => .ok (r.push (.assertion .lineEnd), rest)
  | c => .ok (r.push (.literal ⟨c, false⟩), rest)

/-- Reads piece after piece. Every piece takes at least one character, so the length of the text is
fuel enough. -/
def readLoop : Nat → Reading → List Char → Except PatternError Node
  | 0, r, _ => r.finish
  | fuel + 1, r, cs =>
    match skipIgnored r.ignoreSpace cs with
    | [] => r.finish
    | c :: rest =>
      match readPiece r c rest with
      | .ok (r, rest) => readLoop fuel r rest
      | .error e => .error e

end Detour.PatternText

namespace Detour

/-- The pattern that a text writes, if it is one and not nested too deeply. -/
def Node.ofText (cs : List Char) : Except PatternError Node :=
  match PatternText.readLoop (cs.length + 1) .start cs with
  | .ok n => if n.depth ≤ Node.maxDepth then .ok n else .error .tooDeep
  | .error e => .error e

end Detour
