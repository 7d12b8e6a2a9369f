import Detour.Text.Ascii

/-!
# What a rule sees of a request

Rules look at a request through its method, its address and its headers. `RequestView.value?`
finds what a condition names.
-/

namespace Detour

/-- The parts of a request that rules can inspect. -/
structure RequestView where
  method : String
  /-- Path and query. -/
  url : String
  /-- The first value of the header with the given name, in whatever case. -/
  header : String → Option String

/-- A request written out by its parts. -/
structure RequestParts where
  method : String
  url : String
  headers : List (String × String)
deriving Repr, DecidableEq, Inhabited

namespace RequestParts

def header? (r : RequestParts) (name : String) : Option String :=
  (r.headers.find? fun h => sameIgnoringCase h.1 name).map Prod.snd

def view (r : RequestParts) : RequestView := ⟨r.method, r.url, r.header?⟩

end RequestParts

namespace RequestView

/-- The address up to its first question mark. -/
def path (r : RequestView) : String := String.ofList (splitOnce '?' r.url.toList).1

/-- The address after its first question mark, if it has one. -/
def query? (r : RequestView) : Option String :=
  (splitOnce '?' r.url.toList).2.map String.ofList

/-- The name of a header in which hyphens are written as underscores. -/
def dashed (name : String) : String :=
  String.ofList (name.toList.map fun c => if c = '_' then '-' else c)

/-- The value of an attribute: a part of the request line, or a header, whose hyphens may be written
as underscores. -/
def value? (r : RequestView) (name : String) : Option String :=
  match name with
  | "method" => some r.method
  | "url" => some r.url
  | "uri" => some r.url
  | "path" => some r.path
  | "query" => r.query?
  | _ => (r.header (dashed name)).orElse fun _ => r.header name

end RequestView

end Detour
