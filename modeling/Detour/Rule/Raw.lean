import Detour.Json.Printer
import Detour.Json.Reader
import Detour.Json.Record

/-!
# Rules as they are given

A rule is given by four values of any type, each of which may be missing. `RawRule.ofText` reads one
from a JSON text, member by member.
-/

namespace Detour

/-- A rule before anything is checked. -/
structure RawRule where
  condition : Option Json
  source : Option Json
  target : Option Json
  redirect : Option Json
deriving Repr, Inhabited

/-- Why a JSON text is no rule. -/
inductive RawRuleError where
  /-- The text is no JSON, or goes on after the rule. -/
  | malformed
  /-- The text is JSON of another shape. -/
  | shape
deriving Repr, DecidableEq, Inhabited

namespace RawRule

def empty : RawRule := ⟨none, none, none, none⟩

def fieldNames : List String := ["condition", "from", "to", "redirect"]

/-- The rule that a value of a document stands for. -/
def ofValue? (style : RecordStyle) (v : Json) : Option RawRule :=
  (style.fields? fieldNames v).map fun field =>
    let given (name : String) : Option Json := (field name).bind style.given
    ⟨given "condition", given "from", given "to", given "redirect"⟩

/-- The rule of a JSON value. -/
def ofJson? (v : Json) : Option RawRule := ofValue? .json v

/-- The rules of a list, if each of them is one. -/
def listOfJson? (items : List Json) : Option (List RawRule) := items.mapM ofJson?

/-- The rule as an object, without the missing values. -/
def toJson (r : RawRule) : Json :=
  let member (name : String) (v : Option Json) : List (String × Json) :=
    match v with
    | some v => [(name, v)]
    | none => []
  Json.ofMembers (member "condition" r.condition ++ member "from" r.source ++
    member "to" r.target ++ member "redirect" r.redirect)

/-! ## Reading from a text -/

open JsonText

/-- The values read so far by the names of their fields. -/
abbrev Fields := List (String × Json)

def ofFields (fields : Fields) : RawRule :=
  (ofJson? (Json.ofMembers fields)).getD empty

/-- The levels of nesting that are left inside the rule. -/
def innerDepth : Nat := maxDepth - 1

/-- A failure of the JSON text itself. -/
def orMalformed {α : Type} : Except JsonError α → Except RawRuleError α
  | .ok a => .ok a
  | .error _ => .error .malformed

/-- The members of an object. A field may be given once; what is no field is passed over. -/
def readFields : Nat → Fields → List Char → Except RawRuleError (Fields × List Char)
  | 0, _, _ => .error .malformed
  | fuel + 1, fields, cs => do
    let (name, rest) ← match skipBlanks cs with
      | '"' :: rest => orMalformed (readString .full rest)
      | _ => .error .malformed
    let known := fieldNames.contains name
    if known && fields.any fun f => f.1 = name then throw .shape
    let rest ← match skipBlanks rest with
      | ':' :: rest => pure rest
      | _ => .error .malformed
    let (v, rest) ←
      orMalformed (value (if known then .full else .grammarOnly) innerDepth rest)
    let fields := if known then (name, v) :: fields else fields
    match skipBlanks rest with
    | ',' :: rest => readFields fuel fields rest
    | '\x7d' :: rest => return (fields, rest)
    | _ => throw .malformed

/-- The items of an array, one for each of the fields that are left. -/
def readItems (cs : List Char) : List String → Except RawRuleError (Fields × List Char)
  | [] => .error .malformed
  | name :: names => do
    let (v, rest) ← orMalformed (value .full innerDepth cs)
    match skipBlanks rest with
    | ',' :: rest =>
      let (fields, rest) ← readItems rest names
      return ((name, v) :: fields, rest)
    | ']' :: rest => return ([(name, v)], rest)
    | _ => throw .malformed

/-- A value that is neither object nor array has the wrong shape if it is one at all. -/
def refuseScalar (cs : List Char) : Except RawRuleError (Fields × List Char) :=
  match value .full innerDepth cs with
  | .ok _ => .error .shape
  | .error _ => .error .malformed

/-- The rule that a JSON text writes. -/
def ofText (text : String) : Except RawRuleError RawRule := do
  let cs := skipBlanks text.toList
  let (fields, rest) ← match cs with
    | '\x7b' :: rest =>
      match skipBlanks rest with
      | '\x7d' :: rest => pure ([], rest)
      | rest => readFields (rest.length + 1) [] rest
    | '[' :: rest =>
      match skipBlanks rest with
      | ']' :: rest => pure ([], rest)
      | rest => readItems rest fieldNames
    | _ => refuseScalar cs
  if finished rest then return ofFields fields else throw .malformed

end RawRule

end Detour
