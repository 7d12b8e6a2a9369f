import Detour.Pattern.Normal
import Detour.Pattern.Reader
import Detour.Unicode.CaseFold

/-!
# From the written pattern to its meaning

`Node.meaning` carries the flags through a pattern and replaces every piece by sets and tests. Flags
set inside a group end with it. Without the flag `u` a class ranges over single bytes, and one that
reaches beyond ASCII is refused, since it could match a part of a character.
-/

namespace Detour

/-- The flags in force at a place of a pattern. -/
structure Flags where
  ignoreCase : Bool := false
  multiLine : Bool := false
  dotMatchesNewLine : Bool := false
  swapGreed : Bool := false
  unicode : Bool := true
  crlf : Bool := false
deriving Repr, DecidableEq, Inhabited

namespace Flags

/-- White space is the reader's matter. -/
def set (flags : Flags) (s : FlagSetting) : Flags :=
  match s.flag with
  | .ignoreCase => { flags with ignoreCase := s.on }
  | .multiLine => { flags with multiLine := s.on }
  | .dotMatchesNewLine => { flags with dotMatchesNewLine := s.on }
  | .swapGreed => { flags with swapGreed := s.on }
  | .unicode => { flags with unicode := s.on }
  | .crlf => { flags with crlf := s.on }
  | .ignoreSpace => flags

def setAll (flags : Flags) (settings : List FlagSetting) : Flags := settings.foldl set flags

/-- The set together with its other cases, if case does not count. -/
def fold (flags : Flags) (s : CodeSet) : CodeSet :=
  if !flags.ignoreCase then s
  else if flags.unicode then Unicode.caseClosure s
  else
    let shifted (first last : Nat) (shift : Nat → Nat) : CodeSet :=
      .ofCodes ((CodeSet.toCodes (s.inter (.range first last))).map shift)
    (s.union (shifted 0x41 0x5A (· + 32))).union (shifted 0x61 0x7A (· - 32))

/-- The characters outside a set, among all characters or among all bytes. -/
def negate (flags : Flags) (s : CodeSet) : CodeSet :=
  if flags.unicode then s.complement else s.complementUpTo 0xFF

/-- A set of bytes has to stay within ASCII. -/
def check (flags : Flags) (s : CodeSet) : Except PatternError CodeSet :=
  if flags.unicode || s.isAscii then .ok s else .error .notText

/-- A class as it is matched: its other cases first, then its negation. -/
def close (flags : Flags) (negated : Bool) (s : CodeSet) : Except PatternError CodeSet :=
  let s := flags.fold s
  flags.check (if negated then flags.negate s else s)

end Flags

namespace AsciiClass

/-- The members of an ASCII class. -/
def set : AsciiClass → CodeSet
  | alnum => .ofPairs [(0x30, 0x39), (0x41, 0x5A), (0x61, 0x7A)]
  | alpha => .ofPairs [(0x41, 0x5A), (0x61, 0x7A)]
  | ascii => .ascii
  | blank => .ofPairs [(0x09, 0x09), (0x20, 0x20)]
  | cntrl => .ofPairs [(0x00, 0x1F), (0x7F, 0x7F)]
  | digit => .range 0x30 0x39
  | graph => .range 0x21 0x7E
  | lower => .range 0x61 0x7A
  | print => .range 0x20 0x7E
  | punct => .ofPairs [(0x21, 0x2F), (0x3A, 0x40), (0x5B, 0x60), (0x7B, 0x7E)]
  | space => .ofPairs [(0x09, 0x0D), (0x20, 0x20)]
  | upper => .range 0x41 0x5A
  | word => asciiWord
  | xdigit => .ofPairs [(0x30, 0x39), (0x41, 0x46), (0x61, 0x66)]

end AsciiClass

namespace Shorthand

/-- The members of a class written by one letter. -/
def set (flags : Flags) : Shorthand → CodeSet
  | digit => if flags.unicode then Unicode.decimalDigits else AsciiClass.digit.set
  | space => if flags.unicode then Unicode.whiteSpace else AsciiClass.space.set
  | word => if flags.unicode then Unicode.wordCharacters else asciiWord

/-- The class or its negation. Its members do not depend on case. -/
def meaning (flags : Flags) (kind : Shorthand) (negated : Bool) : Except PatternError CodeSet :=
  let s := kind.set flags
  flags.check (if negated then flags.negate s else s)

end Shorthand

/-- The class of a property. It needs the flag `u`. -/
def Unicode.PropertyQuery.meaning (flags : Flags) (query : Unicode.PropertyQuery)
    (negated : Bool) : Except PatternError CodeSet :=
  if !flags.unicode then .error .notText
  else
    match query.set? with
    | some s => flags.close negated s
    | none => .error .unknownProperty

/-- The code point of a literal inside brackets. -/
def Literal.classCode (flags : Flags) (l : Literal) : Except PatternError Nat :=
  if flags.unicode || l.char.toNat < 0x80 then .ok l.char.toNat else .error .notText

/-- The set of a literal outside of brackets. A byte beyond ASCII is no character. -/
def Literal.meaning (flags : Flags) (l : Literal) : Except PatternError CodeSet :=
  if flags.unicode then .ok (flags.fold (.single l.char.toNat))
  else if l.char.toNat < 0x80 then .ok (flags.fold (.single l.char.toNat))
  else if l.byteEscape then .error .notText
  else .ok (.single l.char.toNat)

def SetOp.apply : SetOp → CodeSet → CodeSet → CodeSet
  | inter => CodeSet.inter
  | diff => CodeSet.diff
  | symmDiff => CodeSet.symmDiff

mutual

/-- The set that stands between brackets. Both sides of an operation get their other cases first. -/
def ClassSet.meaning (flags : Flags) : ClassSet → Except PatternError CodeSet
  | .empty => .ok .empty
  | .literal l => (l.classCode flags).map CodeSet.single
  | .range first last => do
    return .range (← first.classCode flags) (← last.classCode flags)
  | .ascii kind negated => flags.close negated kind.set
  | .shorthand kind negated => kind.meaning flags negated
  | .property query negated => query.meaning flags negated
  | .bracketed negated body => do flags.close negated (← body.meaning flags)
  | .union items => ClassSet.unionMeaning flags items
  | .op o left right => do
    return o.apply (flags.fold (← left.meaning flags)) (flags.fold (← right.meaning flags))

def ClassSet.unionMeaning (flags : Flags) : List ClassSet → Except PatternError CodeSet
  | [] => .ok .empty
  | s :: rest => do return (← s.meaning flags).union (← ClassSet.unionMeaning flags rest)

end

/-- The characters that a dot matches. -/
def Flags.dot (flags : Flags) : Except PatternError CodeSet :=
  if !flags.unicode then .error .notText
  else if flags.dotMatchesNewLine then .ok .all
  else if flags.crlf then .ok (CodeSet.ofCodes [0x0A, 0x0D]).complement
  else .ok (CodeSet.single 0x0A).complement

/-- One character of a set, which ranges over bytes without the flag `u`. -/
def Flags.oneOf (flags : Flags) (s : CodeSet) : Expr := .ofSet s !flags.unicode

def Assertion.meaning (flags : Flags) : Assertion → Look
  | lineStart => if flags.multiLine then .lineStart flags.crlf else .textStart
  | lineEnd => if flags.multiLine then .lineEnd flags.crlf else .textEnd
  | textStart => .textStart
  | textEnd => .textEnd
  | wordBoundary => .wordBoundary flags.unicode
  | notWordBoundary => .notWordBoundary flags.unicode
  | wordStart => .wordStart flags.unicode
  | wordEnd => .wordEnd flags.unicode
  | wordStartHalf => .wordStartHalf flags.unicode
  | wordEndHalf => .wordEndHalf flags.unicode

mutual

/-- The meaning of a pattern under the given flags, and the flags after it. -/
def Node.meaning (flags : Flags) : Node → Except PatternError (Expr × Flags)
  | .empty => .ok (.empty, flags)
  | .flags settings => .ok (.empty, flags.setAll settings)
  | .literal l => do return (flags.oneOf (← l.meaning flags), flags)
  | .dot => do return (flags.oneOf (← flags.dot), flags)
  | .assertion a => .ok (.look (a.meaning flags), flags)
  | .shorthand kind negated => do return (flags.oneOf (← kind.meaning flags negated), flags)
  | .property query negated => do return (flags.oneOf (← query.meaning flags negated), flags)
  | .bracketed negated body => do
    return (flags.oneOf (← flags.close negated (← body.meaning flags)), flags)
  | .repetition counts greedy body => do
    let (e, flags) ← body.meaning flags
    return (.ofCounts counts.min counts.max (greedy != flags.swapGreed) e, flags)
  | .group (.capture index name) body => do
    let (e, _) ← body.meaning flags
    return (.group index name e, flags)
  | .group (.plain settings) body => do
    let (e, _) ← body.meaning (flags.setAll settings)
    return (e, flags)
  | .alternation branches => do
    let (es, flags) ← Node.listMeaning flags branches
    return (.altAll es, flags)
  | .concat items => do
    let (es, flags) ← Node.listMeaning flags items
    return (.catAll es, flags)

/-- The meanings of a list, the flags carried from one to the next. -/
def Node.listMeaning (flags : Flags) : List Node → Except PatternError (List Expr × Flags)
  | [] => .ok ([], flags)
  | n :: rest => do
    let (e, flags) ← n.meaning flags
    let (es, flags) ← Node.listMeaning flags rest
    return (e :: es, flags)

end

end Detour
