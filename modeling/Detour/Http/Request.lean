import Detour.Http.Uri
import Detour.Rule.Request

/-!
# Requests

A request with a checked method, address and headers. `Request.build?` refuses what could not be
sent.
-/

namespace Detour

/-- A character of a method or header name. -/
def isTokenChar (c : Char) : Bool :=
  c.isAlphanum || "!#$%&'*+-.^_\x60|~".toList.contains c

/-- A method or header name: not empty, token characters only. -/
def isToken (s : String) : Bool := !s.isEmpty && s.toList.all isTokenChar

/-- A character that a header value may hold: no control but the tab. -/
def isFieldChar (c : Char) : Bool := c = '\t' || (0x20 ≤ c.toNat && c.toNat ≠ 0x7F)

def isFieldValue (s : String) : Bool := s.toList.all isFieldChar

/-- A value that can be read as text: visible ASCII, spaces and tabs. -/
def isPlainText (s : String) : Bool :=
  s.toList.all fun c => c = '\t' || (0x20 ≤ c.toNat && c.toNat < 0x7F)

/-- A request. -/
structure Request where
  method : String
  uri : Uri
  headers : List (String × String)
  body : String
  /-- The address before a rule changed it. -/
  reroutedFrom : Option Uri
deriving Repr, DecidableEq, Inhabited

namespace Request

/-- The request of the given parts, if all of them can be sent. -/
def build? (method url : String) (headers : List (String × String)) (body : String) :
    Option Request :=
  if isToken method && headers.all fun h => isToken h.1 && isFieldValue h.2 then
    (Uri.parse? url).map fun uri => ⟨method, uri, headers, body, none⟩
  else none

/-- The first value of a header. A name that is no token is never found. -/
def header? (r : Request) (name : String) : Option String :=
  if isToken name then (r.headers.find? fun h => sameIgnoringCase h.1 name).map Prod.snd else none

/-- The first value of a header, if it can be read as text. -/
def headerText? (r : Request) (name : String) : Option String :=
  (r.header? name).filter isPlainText

def view (r : Request) : RequestView := ⟨r.method, r.uri.url, r.headerText?⟩

end Request

end Detour
