import Detour.Http.Request

/-!
# Media types

The value of a content type header: two names with a slash between them, then parameters. The
second name may have a suffix after a plus sign.
-/

namespace Detour

/-- The names of a media type in lower case; the last plus sign of the second name starts its
suffix. -/
structure MediaType where
  main : String
  sub : String
  suffix : Option String
deriving Repr, DecidableEq, Inhabited

namespace MediaType

/-- Splits off what follows the last plus sign that is not the first character. -/
def splitSuffix (name : List Char) : List Char × Option (List Char) :=
  let (reversed, rest) := name.reverse.span (· ≠ '+')
  match rest with
  | _ :: before => if before.isEmpty then (name, none) else (before.reverse, some reversed.reverse)
  | [] => (name, none)

/-- Where a parameter is being read. -/
inductive ParamState where
  /-- Before the name. -/
  | start
  | name
  /-- Right after the equals sign. -/
  | valueStart
  | value
  /-- Inside quotes, `true` right after the opening one. -/
  | quotedValue (first : Bool)
  /-- After the closing quote. -/
  | afterQuote
deriving Repr, DecidableEq, Inhabited

/-- Reads on by one character of the parameters. -/
def ParamState.step : ParamState → Char → Option ParamState
  | start, c => if c = ' ' then some start else if isTokenChar c then some name else none
  | name, c => if c = '=' then some valueStart else if isTokenChar c then some name else none
  | valueStart, c =>
    if c = '"' then some (quotedValue true) else if isTokenChar c then some value else none
  | value, c => if c = ';' then some start else if isTokenChar c then some value else none
  | quotedValue first, c =>
    if c = '"' && !first then some afterQuote
    else if 0x20 ≤ c.toNat && c.toNat ≠ 0x7F then some (quotedValue false)
    else none
  | afterQuote, c => if c = ';' then some start else if c = ' ' then some afterQuote else none

/-- May the parameters end here? A name needs its value and a quote its partner. -/
def ParamState.isDone : ParamState → Bool
  | start => true
  | valueStart => true
  | value => true
  | afterQuote => true
  | _ => false

/-- Are the characters after the first semicolon parameters? -/
def areParams (cs : List Char) : Bool :=
  match cs.foldlM ParamState.step .start with
  | some s => s.isDone
  | none => false

/-- The media type that a header value writes. -/
def parse? (text : String) : Option MediaType :=
  let (main, rest) := text.toList.span (· ≠ '/')
  let (sub, params) := splitOnce ';' (rest.drop 1)
  if rest.isEmpty || main.isEmpty || !main.all isTokenChar || sub.isEmpty ||
      !sub.all isTokenChar || !areParams (params.getD []) then none
  else
    let (sub, suffix) := splitSuffix sub
    some ⟨asciiLower (String.ofList main), asciiLower (String.ofList sub),
      suffix.map fun s => asciiLower (String.ofList s)⟩

/-- JSON itself, or an application format built on it. -/
def isJson (m : MediaType) : Bool :=
  m.main = "application" && (m.sub = "json" || m.suffix = some "json")

end MediaType

end Detour
