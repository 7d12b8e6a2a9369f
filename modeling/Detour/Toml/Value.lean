import Detour.Json.Value

/-!
# TOML values
-/

namespace Detour

/-- A TOML value. A float that is infinite or no number has no finite value; a date is kept as its
normalized text. -/
inductive Toml where
  | string (s : String)
  | integer (n : Int)
  | float (x : Option Binary64)
  | boolean (b : Bool)
  | datetime (text : String)
  | array (items : List Toml)
  | table (members : List (String × Toml))
deriving Repr, Inhabited

namespace Toml

/-- The name of the only member of an object that stands for a date. -/
def datetimeMember : String := "$__toml_private_datetime"

mutual

/-- The value as JSON: a number that JSON lacks becomes null, a date an object around its text. -/
def toJson : Toml → Json
  | string s => .string s
  | integer n => .int n
  | float (some x) => .float x
  | float none => .null
  | boolean b => .bool b
  | datetime text => .object [(datetimeMember, .string text)]
  | array items => .array (itemsToJson items)
  | table members => Json.ofMembers (membersToJson members)

def itemsToJson : List Toml → List Json
  | [] => []
  | v :: rest => v.toJson :: itemsToJson rest

def membersToJson : List (String × Toml) → List (String × Json)
  | [] => []
  | (name, v) :: rest => (name, v.toJson) :: membersToJson rest

end

end Toml

end Detour
