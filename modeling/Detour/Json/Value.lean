import Detour.Number.Binary64

/-!
# JSON values

Integers and floating-point numbers are told apart as they are written: `1` is an integer, `1.0` is
not. Objects list their members by ascending names.
-/

namespace Detour

/-- A JSON value. -/
inductive Json where
  | null
  | bool (b : Bool)
  | int (n : Int)
  | float (x : Binary64)
  | string (s : String)
  | array (items : List Json)
  | object (members : List (String × Json))
deriving Repr, Inhabited

namespace Json

/-- Sets a member of an ascending list, replacing one of the same name. -/
def insertMember (name : String) (value : Json) : List (String × Json) → List (String × Json)
  | [] => [(name, value)]
  | (n, v) :: rest =>
    if name < n then (name, value) :: (n, v) :: rest
    else if name = n then (name, value) :: rest
    else (n, v) :: insertMember name value rest

/-- The object of the given members; of those with one name the last counts. The members of a record
stand by their names as well, not in the order in which its fields are declared. -/
def ofMembers (members : List (String × Json)) : Json :=
  .object (members.foldl (fun fields m => insertMember m.1 m.2 fields) [])

/-- The member of the given name, if the value is an object that has one. -/
def member? (name : String) : Json → Option Json
  | object members => (members.find? fun m => m.1 = name).map Prod.snd
  | _ => none

def nat (n : Nat) : Json := .int n

def ofStrings (texts : List String) : Json := .array (texts.map .string)

/-- The string, or null for nothing. -/
def ofString? (text : Option String) : Json :=
  match text with
  | some s => .string s
  | none => .null

/-- The number, or null for nothing. -/
def ofNat? (n : Option Nat) : Json :=
  match n with
  | some n => .nat n
  | none => .null

end Json

end Detour
