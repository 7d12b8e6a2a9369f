import Detour.Pattern.Cursor
import Detour.Pattern.Node

/-!
# Escapes

What a backslash introduces: a character, a class, or a test on a place. The same reader serves
inside and outside of brackets.
-/

namespace Detour.PatternText

/-- A character that a backslash makes literal: every ASCII one but letters, digits, `<` and `>`. -/
def isEscapable (c : Char) : Bool :=
  c.toNat < 0x80 && !c.isAlphanum && c ≠ '<' && c ≠ '>'

/-- The character that a letter after a backslash stands for. -/
def controlEscape? : Char → Option Char
  | 'a' => some '\x07'
  | 'f' => some '\x0c'
  | 't' => some '\t'
  | 'n' => some '\n'
  | 'r' => some '\r'
  | 'v' => some '\x0b'
  | _ => none

/-- The class that a letter after a backslash stands for, and whether it is negated. -/
def shorthandEscape? : Char → Option (Shorthand × Bool)
  | 'd' => some (.digit, false)
  | 's' => some (.space, false)
  | 'w' => some (.word, false)
  | 'D' => some (.digit, true)
  | 'S' => some (.space, true)
  | 'W' => some (.word, true)
  | _ => none

/-- Hexadecimal digits after `x`, `u` and `U`. -/
def hexLength? : Char → Option Nat
  | 'x' => some 2
  | 'u' => some 4
  | 'U' => some 8
  | _ => none

/-- The kind of word boundary that a name in braces stands for. -/
def boundaryNamed? (name : List Char) : Option Assertion :=
  match String.ofList name with
  | "start" => some .wordStart
  | "end" => some .wordEnd
  | "start-half" => some .wordStartHalf
  | "end-half" => some .wordEndHalf
  | _ => none

def isBoundaryChar (c : Char) : Bool := c.isAlpha || c = '-'

/-- The word boundary after `\b`: a name in braces tells its kind. Braces that do not begin with a
letter or a hyphen are left for the repetition that they are. -/
def readBoundary (x : Bool) (cs : List Char) : Except PatternError (Node × List Char) :=
  match cs with
  | '\x7b' :: rest =>
    match skipIgnored x rest with
    | [] => .error .badEscape
    | c :: inner =>
      if isBoundaryChar c then
        match spanIgnoring isBoundaryChar x (c :: inner) with
        | (name, '\x7d' :: after) =>
          match boundaryNamed? name with
          | some a => .ok (.assertion a, after)
          | none => .error .badEscape
        | _ => .error .badEscape
      else .ok (.assertion .wordBoundary, cs)
  | _ => .ok (.assertion .wordBoundary, cs)

/-- The parts of a text before and after the first place where `sep` occurs. -/
def cutAt? (sep : List Char) : List Char → Option (List Char × List Char)
  | [] => none
  | c :: cs =>
    if sep.isPrefixOf (c :: cs) then some ([], (c :: cs).drop sep.length)
    else (cutAt? sep cs).map fun (before, after) => (c :: before, after)

/-- The query written between the braces of `\p`, and whether its value is excluded. -/
def propertyQuery (name : List Char) : Unicode.PropertyQuery × Bool :=
  let valued (parts : List Char × List Char) : Unicode.PropertyQuery :=
    .valued (String.ofList parts.1) (String.ofList parts.2)
  match cutAt? ['!', '='] name with
  | some parts => (valued parts, true)
  | none =>
    match cutAt? [':'] name with
    | some parts => (valued parts, false)
    | none =>
      match cutAt? ['='] name with
      | some parts => (valued parts, false)
      | none => (.named (String.ofList name), false)

/-- The class after `\p` or, negated, `\P`. -/
def readProperty (x negated : Bool) (cs : List Char) : Except PatternError (Node × List Char) :=
  match skipIgnored x cs with
  | [] => .error .badEscape
  | '\x7b' :: rest =>
    match spanIgnoring (· ≠ '\x7d') x (skipIgnored x rest) with
    | (_, []) => .error .badEscape
    | (name, _ :: after) =>
      let (query, excluded) := propertyQuery name
      .ok (.property query (negated ^^ excluded), after)
  | c :: rest =>
    if c = '\\' then .error .badEscape
    else .ok (.property (.named (String.singleton c)) negated, rest)

/-- The character after `\x`, `\u` or `\U`, whose digits number `length`. -/
def readHex (x : Bool) (length : Nat) (cs : List Char) : Except PatternError (Node × List Char) :=
  match skipIgnored x cs with
  | [] => .error .badEscape
  | '\x7b' :: rest => (readBracedHex x rest).map fun (c, after) => (.literal ⟨c, false⟩, after)
  | rest => (readHexDigits x 0 length rest).map fun (c, after) => (.literal ⟨c, length = 2⟩, after)

/-- What follows a backslash, and the rest. -/
def readEscape (x : Bool) (cs : List Char) : Except PatternError (Node × List Char) :=
  match cs with
  | [] => .error .badEscape
  | c :: rest =>
    if isEscapable c then .ok (.literal ⟨c, false⟩, rest)
    else
      match controlEscape? c, shorthandEscape? c, hexLength? c with
      | some d, _, _ => .ok (.literal ⟨d, false⟩, rest)
      | _, some (kind, negated), _ => .ok (.shorthand kind negated, rest)
      | _, _, some length => readHex x length rest
      | none, none, none =>
        match c with
        | 'p' => readProperty x false rest
        | 'P' => readProperty x true rest
        | 'A' => .ok (.assertion .textStart, rest)
        | 'z' => .ok (.assertion .textEnd, rest)
        | 'b' => readBoundary x rest
        | 'B' => .ok (.assertion .notWordBoundary, rest)
        | '<' => .ok (.assertion .wordStart, rest)
        | '>' => .ok (.assertion .wordEnd, rest)
        | _ => .error .badEscape

end Detour.PatternText
