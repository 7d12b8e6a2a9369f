import Detour.Unicode.Property

/-!
# Patterns as they are written

The tree of a pattern's text: nothing is expanded, and flags stand where they were set.
`Node.depth` counts the levels of nesting.
-/

namespace Detour

/-- A character of a pattern; `byteEscape` marks one written by two hexadecimal digits. -/
structure Literal where
  char : Char
  byteEscape : Bool
deriving Repr, DecidableEq, Inhabited

/-- The classes written by one letter after a backslash. -/
inductive Shorthand where
  | digit
  | space
  | word
deriving Repr, DecidableEq, Inhabited

/-- The classes of ASCII characters written `[:name:]` inside brackets. -/
inductive AsciiClass where
  | alnum
  | alpha
  | ascii
  | blank
  | cntrl
  | digit
  | graph
  | lower
  | print
  | punct
  | space
  | upper
  | word
  | xdigit
deriving Repr, DecidableEq, Inhabited

/-- The operations between sets inside brackets. -/
inductive SetOp where
  | inter
  | diff
  | symmDiff
deriving Repr, DecidableEq, Inhabited

/-- What stands between brackets. -/
inductive ClassSet where
  | empty
  | literal (l : Literal)
  | range (first last : Literal)
  | ascii (kind : AsciiClass) (negated : Bool)
  | shorthand (kind : Shorthand) (negated : Bool)
  | property (query : Unicode.PropertyQuery) (negated : Bool)
  | bracketed (negated : Bool) (body : ClassSet)
  | union (items : List ClassSet)
  | op (o : SetOp) (left right : ClassSet)
deriving Repr, Inhabited

/-- A test on the place between two characters. -/
inductive Assertion where
  | lineStart
  | lineEnd
  | textStart
  | textEnd
  | wordBoundary
  | notWordBoundary
  | wordStart
  | wordEnd
  | wordStartHalf
  | wordEndHalf
deriving Repr, DecidableEq, Inhabited

/-- A switch for the meaning of what follows it. -/
inductive Flag where
  | ignoreCase
  | multiLine
  | dotMatchesNewLine
  | swapGreed
  | unicode
  | crlf
  | ignoreSpace
deriving Repr, DecidableEq, Inhabited

/-- A flag and whether it is turned on or off. -/
structure FlagSetting where
  flag : Flag
  on : Bool
deriving Repr, DecidableEq, Inhabited

/-- How often something is repeated, `max = none` standing for no limit. -/
structure Counts where
  min : Nat
  max : Option Nat
deriving Repr, DecidableEq, Inhabited

/-- What a pair of parentheses does. -/
inductive GroupKind where
  /-- The group captures under its number and, if it has one, its name. -/
  | capture (index : Nat) (name : Option String)
  /-- The group only sets flags for its inside. -/
  | plain (flags : List FlagSetting)
deriving Repr, DecidableEq, Inhabited

/-- A pattern as it is written. -/
inductive Node where
  | empty
  | flags (settings : List FlagSetting)
  | literal (l : Literal)
  | dot
  | assertion (a : Assertion)
  | shorthand (kind : Shorthand) (negated : Bool)
  | property (query : Unicode.PropertyQuery) (negated : Bool)
  | bracketed (negated : Bool) (body : ClassSet)
  | repetition (counts : Counts) (greedy : Bool) (body : Node)
  | group (kind : GroupKind) (body : Node)
  | alternation (branches : List Node)
  | concat (items : List Node)
deriving Repr, Inhabited

mutual

/-- The levels of brackets, joined items and operations in a class. -/
def ClassSet.depth : ClassSet → Nat
  | .bracketed _ body => body.depth + 1
  | .union items => ClassSet.listDepth items + 1
  | .op _ left right => max left.depth right.depth + 1
  | _ => 0

def ClassSet.listDepth : List ClassSet → Nat
  | [] => 0
  | s :: rest => max s.depth (ClassSet.listDepth rest)

end

mutual

/-- The levels of nesting in a pattern. -/
def Node.depth : Node → Nat
  | .bracketed _ body => body.depth + 1
  | .repetition _ _ body => body.depth + 1
  | .group _ body => body.depth + 1
  | .alternation branches => Node.listDepth branches + 1
  | .concat items => Node.listDepth items + 1
  | _ => 0

def Node.listDepth : List Node → Nat
  | [] => 0
  | n :: rest => max n.depth (Node.listDepth rest)

end

namespace ClassSet

/-- One item stands for itself, several for their union. -/
def ofItems : List ClassSet → ClassSet
  | [] => empty
  | [s] => s
  | items => union items

end ClassSet

namespace Node

/-- The deepest nesting of an accepted pattern. -/
def maxDepth : Nat := 250

/-- One item stands for itself, several for their sequence. -/
def ofItems : List Node → Node
  | [] => empty
  | [n] => n
  | items => concat items

/-- One branch stands for itself, several for the choice between them. -/
def ofBranches : List Node → Node
  | [n] => n
  | branches => alternation branches

/-- Flags and the empty pattern cannot be repeated. -/
def isRepeatable : Node → Bool
  | empty => false
  | flags _ => false
  | _ => true

end Node

end Detour
