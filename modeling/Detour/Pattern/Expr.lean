import Detour.Unicode.CharClass

/-!
# What a pattern means

An expression has no flags and no shorthands left: characters come as texts and sets, tests on
places say all that they depend on.
-/

namespace Detour

/-- A test on the place between two characters. In `crlf` lines a carriage return, alone or before
a line feed, ends a line too; `unicode` words may hold any letter. -/
inductive Look where
  | textStart
  | textEnd
  | lineStart (crlf : Bool)
  | lineEnd (crlf : Bool)
  | wordBoundary (unicode : Bool)
  | notWordBoundary (unicode : Bool)
  | wordStart (unicode : Bool)
  | wordEnd (unicode : Bool)
  | wordStartHalf (unicode : Bool)
  | wordEndHalf (unicode : Bool)
deriving Repr, DecidableEq, Inhabited

/-- Letters, digits and the underscore of ASCII. -/
def asciiWord : CodeSet := ⟨[⟨0x30, 0x39⟩, ⟨0x41, 0x5A⟩, ⟨0x5F, 0x5F⟩, ⟨0x61, 0x7A⟩]⟩

namespace Look

/-- Does a word character stand there? -/
def isWord (unicode : Bool) (c : Option Char) : Bool :=
  c.any fun c => if unicode then Unicode.wordCharacters.containsChar c else asciiWord.containsChar c

/-- Does the test hold between the characters `before` and `after`, which are `none` at the ends of
the text? -/
def holds (before after : Option Char) : Look → Bool
  | textStart => before.isNone
  | textEnd => after.isNone
  | lineStart false => before.all (· = '\n')
  | lineStart true => before.all (· = '\n') || (before = some '\r' && after ≠ some '\n')
  | lineEnd false => after.all (· = '\n')
  | lineEnd true => after.all (· = '\r') || (after = some '\n' && before ≠ some '\r')
  | wordBoundary u => isWord u before != isWord u after
  | notWordBoundary u => isWord u before == isWord u after
  | wordStart u => !isWord u before && isWord u after
  | wordEnd u => isWord u before && !isWord u after
  | wordStartHalf u => !isWord u before
  | wordEndHalf u => !isWord u after

end Look

/-- The meaning of a pattern. Of two alternatives the left one is preferred; a greedy repetition
prefers to go on. A set is read as one of characters or of single bytes. -/
inductive Expr where
  | empty
  /-- The characters one after the other. -/
  | text (cs : List Char)
  | chars (s : CodeSet) (ofBytes : Bool)
  | look (l : Look)
  | group (index : Nat) (name : Option String) (body : Expr)
  | cat (first second : Expr)
  | alt (first second : Expr)
  | repeated (min : Nat) (max : Option Nat) (greedy : Bool) (body : Expr)
deriving Repr, DecidableEq, Inhabited

namespace Expr

/-- Can the expression match the empty text? A test on a place counts as a match of it. -/
def nullable : Expr → Bool
  | empty => true
  | text cs => cs.isEmpty
  | chars .. => false
  | look _ => true
  | group _ _ body => body.nullable
  | cat a b => a.nullable && b.nullable
  | alt a b => a.nullable || b.nullable
  | repeated min _ _ body => min = 0 || body.nullable

/-- Does the expression match no other text than the empty one? -/
def onlyEmpty : Expr → Bool
  | empty => true
  | text cs => cs.isEmpty
  | chars .. => false
  | look _ => true
  | group _ _ body => body.onlyEmpty
  | cat a b => a.onlyEmpty && b.onlyEmpty
  | alt a b => a.onlyEmpty && b.onlyEmpty
  | repeated _ _ _ body => body.onlyEmpty

/-- The capturing groups, in the order of their opening. -/
def groups : Expr → List (Nat × Option String)
  | group index name body => (index, name) :: body.groups
  | cat a b => a.groups ++ b.groups
  | alt a b => a.groups ++ b.groups
  | repeated _ _ _ body => body.groups
  | _ => []

end Expr

end Detour
