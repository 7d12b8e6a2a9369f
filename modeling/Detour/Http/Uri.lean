import Detour.Text.Ascii

/-!
# Request addresses

An address has one of three forms: path and query alone, scheme and authority before them, or an
authority alone. `Uri.parse?` accepts exactly the texts that a request line may hold. What follows a
number sign is dropped.
-/

namespace Detour

/-- The path and the query of an address. -/
structure PathAndQuery where
  path : String
  query : Option String
deriving Repr, DecidableEq, Inhabited

/-- An address by its form. -/
inductive Uri where
  | origin (target : PathAndQuery)
  | absolute (scheme authority : String) (target : PathAndQuery)
  | authority (name : String)
deriving Repr, DecidableEq, Inhabited

namespace PathAndQuery

/-- A character that a path may hold: not all of them are clean, but requests hold them. -/
def isPathChar (c : Char) : Bool :=
  let n := c.toNat
  n = 0x21 || n = 0x22 || (0x24 ≤ n && n ≤ 0x3B) || n = 0x3D || (0x40 ≤ n && n ≤ 0x5F) ||
    (0x61 ≤ n && n ≤ 0x7E) || 0x80 ≤ n

/-- A character that a query may hold. -/
def isQueryChar (c : Char) : Bool :=
  let n := c.toNat
  n = 0x21 || (0x24 ≤ n && n ≤ 0x3B) || n = 0x3D || (0x3F ≤ n && n ≤ 0x7E) || 0x80 ≤ n

/-- Path and query of a text without its fragment, if every character may stand where it does. -/
def ofChars? (cs : List Char) : Option PathAndQuery :=
  let (path, query) := splitOnce '?' (cs.takeWhile (· ≠ '#'))
  if path.all isPathChar && (query.getD []).all isQueryChar then
    some ⟨String.ofList path, query.map String.ofList⟩
  else none

/-- The longest address, in bytes. -/
def maxLength : Nat := 65534

/-- May the text stand where a path is expected? -/
def startsWell : List Char → Bool
  | [] => false
  | ['*'] => true
  | c :: _ => c = '/' || c = '?' || c = '#'

/-- The path and query that a target writes. -/
def parse? (target : String) : Option PathAndQuery :=
  if target.utf8ByteSize ≤ maxLength && startsWell target.toList then ofChars? target.toList
  else none

/-- Neither path nor query. -/
def isBlank (p : PathAndQuery) : Bool := p.path.isEmpty && p.query.isNone

/-- The query with its question mark. -/
def querySuffix (p : PathAndQuery) : String :=
  match p.query with
  | some q => "?" ++ q
  | none => ""

/-- Path and query as they are written, a slash for nothing. -/
def text (p : PathAndQuery) : String := if p.isBlank then "/" else p.path ++ p.querySuffix

/-- The path, a slash for an empty one. -/
def fullPath (p : PathAndQuery) : String := if p.path.isEmpty then "/" else p.path

end PathAndQuery

namespace Uri

/-! ## Schemes -/

def isSchemeChar (c : Char) : Bool :=
  c.isAlphanum || c = '+' || c = '-' || c = '.' || c = '~'

def maxSchemeLength : Nat := 64

/-- The scheme at the head of a text and what follows its `://`; the two usual ones are taken in any
case and written in lower case. Nothing is refused but a scheme that is too long. -/
def splitScheme? (cs : List Char) : Option (Option String × List Char) :=
  let (name, rest) := cs.span isSchemeChar
  let lower := asciiLower (String.ofList name)
  match rest with
  | ':' :: '/' :: '/' :: rest =>
    if lower = "http" || lower = "https" then some (some lower, rest)
    else if cs.length ≤ 3 then some (none, cs)
    else if name.length > maxSchemeLength then none
    else some (some (String.ofList name), rest)
  | _ => some (none, cs)

/-! ## Authorities -/

/-- A character of an authority; a percent sign may stand in some places too. -/
def isAuthorityChar (c : Char) : Bool :=
  c.isAlphanum || "!$&'()*+,-.:;=@[]_~".toList.contains c

/-- What has been seen of an authority: colons and percent signs since the last part that may hold
them, and brackets. -/
structure AuthorityScan where
  colons : Nat
  percent : Bool
  opened : Bool
  closed : Bool

namespace AuthorityScan

/-- The most colons that a bracketed host has. -/
def maxColons : Nat := 8

/-- Takes in one character. What stands before an at sign or inside brackets does not count. -/
def step (s : AuthorityScan) (c : Char) : Option AuthorityScan :=
  if c = '%' then some { s with percent := true }
  else if !isAuthorityChar c then none
  else if c = ':' then if s.colons < maxColons then some { s with colons := s.colons + 1 } else none
  else if c = '[' then if s.percent || s.opened then none else some { s with opened := true }
  else if c = ']' then
    if s.opened && !s.closed then some { s with closed := true, colons := 0, percent := false }
    else none
  else if c = '@' then some { s with colons := 0, percent := false }
  else some s

/-- Brackets are paired, one colon at most is left, and no percent sign. -/
def isDone (s : AuthorityScan) : Bool :=
  s.opened == s.closed && s.colons ≤ 1 && !s.percent

end AuthorityScan

/-- Is the text an authority? It may be empty, but nothing may be missing after an at sign. -/
def isAuthority (cs : List Char) : Bool :=
  match cs.foldlM AuthorityScan.step ⟨0, false, false, false⟩ with
  | some s => s.isDone && cs.getLast? ≠ some '@'
  | none => false

/-- The text up to where an authority ends. -/
def authorityPart (cs : List Char) : List Char :=
  cs.takeWhile fun c => c ≠ '/' && c ≠ '?' && c ≠ '#'

/-! ## Addresses -/

/-- An address that does not begin with a slash. -/
def ofFull? (cs : List Char) : Option Uri :=
  match splitScheme? cs with
  | none => none
  | some (scheme, rest) =>
    let name := authorityPart rest
    let target := rest.drop name.length
    if name.isEmpty || !isAuthority name then none
    else
      match scheme with
      | none => if target.isEmpty then some (.authority (String.ofList name)) else none
      | some scheme =>
        (PathAndQuery.ofChars? target).map (.absolute scheme (String.ofList name))

/-- The address that a text writes. -/
def parse? (text : String) : Option Uri :=
  if text.utf8ByteSize > PathAndQuery.maxLength then none
  else
    match text.toList with
    | [] => none
    | ['*'] => some (.origin ⟨"*", none⟩)
    | '/' :: rest => (PathAndQuery.ofChars? ('/' :: rest)).map .origin
    | cs => ofFull? cs

/-- Path and query as rules see them; there are none beside an authority alone. -/
def url : Uri → String
  | origin t => t.text
  | absolute _ _ t => t.text
  | authority _ => ""

def path : Uri → String
  | origin t => if t.isBlank then "" else t.fullPath
  | absolute _ _ t => t.fullPath
  | authority _ => ""

def query : Uri → Option String
  | origin t => t.query
  | absolute _ _ t => t.query
  | authority _ => none

/-- The text of an address. -/
def display : Uri → String
  | origin t => (origin t).path ++ t.querySuffix
  | absolute scheme name t => scheme ++ "://" ++ name ++ t.fullPath ++ t.querySuffix
  | authority name => name

/-- The address with another path and query. Beside an authority alone there is no place for
them. -/
def withTarget? (t : PathAndQuery) : Uri → Option Uri
  | origin _ => some (origin t)
  | absolute scheme name _ => some (absolute scheme name t)
  | authority _ => none

end Uri

end Detour
