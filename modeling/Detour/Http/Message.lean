import Detour.Http.Response
import Detour.Unicode.CharClass

/-!
# Messages in lines

A request without a body as lines of text: method and address, then one header a line. A response is
written in the same way, its body behind an empty line.
-/

namespace Detour

/-- A line without the blanks around it. -/
def trimmed (cs : List Char) : String := String.ofList (Unicode.trim cs)

/-- A header line: name and value with a colon between them. -/
def headerOfLine? (line : String) : Option (String × String) :=
  let (name, value) := splitOnce ':' line.toList
  value.map fun v => (String.ofList name, trimmed v)

namespace Request

/-- The request of the given lines, if they write one that can be sent. -/
def ofLines? : List String → Option Request
  | [] => none
  | first :: rest => do
    let (method, url) := splitOnce ' ' first.toList
    build? (String.ofList method) (trimmed (← url)) (← rest.mapM headerOfLine?) ""

end Request

namespace Response

/-- The lines of a response. -/
def lines (r : Response) : List String :=
  let body := if r.body.isEmpty then [] else ["", r.body]
  toString r.status :: r.headers.map (fun h => h.1 ++ ": " ++ h.2) ++ body

end Response

end Detour
