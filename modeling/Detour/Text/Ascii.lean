/-!
# ASCII letters without regard to case
-/

namespace Detour

/-- The text with its ASCII letters in lower case. -/
def asciiLower (s : String) : String := String.ofList (s.toList.map Char.toLower)

/-- The texts differ in the case of ASCII letters at most. -/
def sameIgnoringCase (s t : String) : Bool := asciiLower s = asciiLower t

/-- The text before the first `sep`, and the text after it if there is one. -/
def splitOnce (sep : Char) : List Char → List Char × Option (List Char)
  | [] => ([], none)
  | c :: cs =>
    if c = sep then ([], some cs)
    else
      let (before, after) := splitOnce sep cs
      (c :: before, after)

end Detour
