import Detour.Unicode.Age
import Detour.Unicode.CharClass
import Detour.Unicode.Script
import Detour.Unicode.Segment

/-!
# Properties by name

A pattern names a set of characters by a property, a category or a script, alone or as a value of
a property, all as of version 16.0. Names are compared loosely: case, spaces, hyphens, underscores
and a leading `is` do not count.
-/

namespace Detour.Unicode

/-- A set of characters as a pattern names it. -/
inductive PropertyQuery where
  /-- A property, category or script. -/
  | named (name : String)
  /-- The characters whose property has the given value. -/
  | valued (property value : String)
deriving Repr, DecidableEq, Inhabited

/-- A name without what a loose comparison leaves out. The name `isc` keeps its `is`, for a `c`
alone would name the category of controls. -/
def looseName (name : String) : String :=
  let cs := name.toList.map Char.toLower
  let (marked, rest) := match cs with
    | 'i' :: 's' :: rest => (true, rest)
    | _ => (false, cs)
  let kept := rest.filter fun c => c ≠ ' ' && c ≠ '_' && c ≠ '-' && c.toNat < 0x80
  if marked && kept = ['c'] then "isc" else String.ofList kept

/-- The set that a category's loose name stands for, the three names for large sets included. -/
def categoryNamed? (name : String) : Option CodeSet :=
  match name with
  | "any" => some .all
  | "assigned" => some (categorySet "cn").complement
  | "ascii" => some .ascii
  | _ => category? name

/-- The set of a name that stands alone: a property before a category before a script. -/
def bare? (name : String) : Option CodeSet :=
  ((NamedSet.find? binaryProperties name).map NamedSet.set).orElse fun _ =>
    (categoryNamed? name).orElse fun _ =>
      (NamedSet.find? scripts name).map NamedSet.set

/-- The set of a property's value, both by their loose names. -/
def valued? (property value : String) : Option CodeSet :=
  let inTable (table : List NamedSet) := (NamedSet.find? table value).map NamedSet.set
  match property with
  | "gc" | "generalcategory" => categoryNamed? value
  | "sc" | "script" => inTable scripts
  | "scx" | "scriptextensions" => inTable scriptExtensions
  | "age" => age? value
  | "gcb" | "graphemeclusterbreak" => inTable clusterParts
  | "wb" | "wordbreak" => inTable wordParts
  | "sb" | "sentencebreak" => inTable sentenceParts
  | _ => none

/-- The set that a query names, if there is one. -/
def PropertyQuery.set? : PropertyQuery → Option CodeSet
  | named name => bare? (looseName name)
  | valued property value => valued? (looseName property) (looseName value)

end Detour.Unicode
