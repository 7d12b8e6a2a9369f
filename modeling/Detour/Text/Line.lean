/-!
# Lines of a text

A line ends at a carriage return, a line feed, or both in this order.
-/

namespace Detour

/-- The lines of a text; there is always at least one, and a last one after the last line end. -/
def splitLines : List Char → List (List Char)
  | [] => [[]]
  | '\r' :: '\n' :: rest => [] :: splitLines rest
  | '\r' :: rest => [] :: splitLines rest
  | '\n' :: rest => [] :: splitLines rest
  | c :: rest =>
    match splitLines rest with
    | line :: lines => (c :: line) :: lines
    | [] => [[c]]

end Detour
