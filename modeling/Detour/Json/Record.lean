import Detour.Json.Value

/-!
# Records in documents

A record is an object with a member for each field, or an array of the fields in their order. In
both forms fields may be missing, and members that are no field do not count.
-/

namespace Detour

/-- What a kind of document leaves open about records. -/
structure RecordStyle where
  /-- A null stands for a missing value. -/
  nullIsMissing : Bool
  /-- An array may go on after the last field. -/
  extraItems : Bool
deriving Repr, DecidableEq, Inhabited

namespace RecordStyle

/-- Records in JSON texts. -/
def json : RecordStyle := ⟨true, false⟩

/-- Records in TOML files, which have no null; it stands for a number that JSON lacks. -/
def toml : RecordStyle := ⟨false, true⟩

/-- A value that may be missing. -/
def given (style : RecordStyle) : Json → Option Json
  | .null => if style.nullIsMissing then none else some .null
  | v => some v

/-- The values of the named fields, if the value is a record. -/
def fields? (style : RecordStyle) (names : List String) : Json → Option (String → Option Json)
  | .object members => some fun name => (Json.object members).member? name
  | .array items =>
    if items.length ≤ names.length || style.extraItems then
      some fun name => items[names.idxOf name]?
    else none
  | _ => none

end RecordStyle

end Detour
