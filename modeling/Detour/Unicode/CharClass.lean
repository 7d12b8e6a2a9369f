import Detour.Unicode.BinaryProperty
import Detour.Unicode.Category
import Detour.Unicode.Recent

/-!
# Classes of characters

The classes that the other modules ask for by purpose: white space, letters, digits, word
characters, and the characters that a quoted text does not show as they are.
-/

namespace Detour.Unicode

/-- The set of the binary property with the given name, the empty set if there is none. -/
def propertySet (name : String) : CodeSet :=
  ((NamedSet.find? binaryProperties name).map NamedSet.set).getD .empty

/-- The set of the category or group with the given name, the empty set if there is none. -/
def categorySet (name : String) : CodeSet := (category? name).getD .empty

def whiteSpace : CodeSet := propertySet "whitespace"

def decimalDigits : CodeSet := categorySet "nd"

/-- Letters, marks, digits, connectors and the two join controls. -/
def wordCharacters : CodeSet :=
  (((propertySet "alphabetic").union (categorySet "m")).union decimalDigits).union
    ((categorySet "pc").union (propertySet "joincontrol"))

/-- The characters that may begin a name. -/
def letters : CodeSet := (propertySet "alphabetic").union recentLetters

def lettersAndNumbers : CodeSet := letters.union ((categorySet "n").union recentNumbers)

/-- Characters without a shape of their own: controls, formats, unassigned and private ones,
separators other than the space, and letters that only fill a place. -/
def shapeless : CodeSet :=
  ((((categorySet "c").union (categorySet "z")).diff recentVisible).diff (.single 0x20)).union
    (propertySet "defaultignorablecodepoint")

/-- The characters that attach to the character before. The two halfwidth marks of Katakana have a
width of their own. -/
def attaching : CodeSet := (propertySet "graphemeextend").diff (.range 0xFF9E 0xFF9F)

/-- The characters that a quoted text does not show as they are. -/
def unprintable : CodeSet := shapeless.union attaching

def isWhiteSpace (c : Char) : Bool := whiteSpace.containsChar c

/-- The text without the white space around it. -/
def trim (cs : List Char) : List Char :=
  ((cs.dropWhile isWhiteSpace).reverse.dropWhile isWhiteSpace).reverse

end Detour.Unicode
