import Detour.Config.Decode
import Detour.Config.Validate
import Detour.Toml.Reader

/-!
# Loading the configuration

The content of a file becomes a configuration if it is a TOML document of the right shape without
problems.
-/

namespace Detour

/-- Why a configuration cannot be loaded. -/
inductive ConfigError where
  | missingFile
  | notText
  /-- The document is no TOML, or a setting has the wrong type. -/
  | malformed
  | invalid (problems : List ConfigProblem)
deriving Repr, DecidableEq, Inhabited

namespace ConfigError

def message : ConfigError → String
  | missingFile => "IO error: No such file or directory (os error 2)"
  | notText => "IO error: stream did not contain valid UTF-8"
  | malformed => "Parse error"
  | invalid problems =>
    "Validation failed: " ++ ", ".intercalate (problems.map ConfigProblem.message)

end ConfigError

namespace Config

/-- The configuration that a document describes, whether or not it has problems. -/
def parse (text : String) : Except ConfigError Config :=
  match (Toml.ofText? text).bind fun doc => ofValue? .toml doc.toJson with
  | some c => .ok c
  | none => .error .malformed

/-- The configuration of a document. -/
def ofText (text : String) : Except ConfigError Config :=
  match parse text with
  | .error e => .error e
  | .ok c => if c.problems.isEmpty then .ok c else .error (.invalid c.problems)

/-- The configuration in a file with the given content, if there is a file. -/
def load (content : Option ByteArray) : Except ConfigError Config :=
  match content with
  | none => .error .missingFile
  | some bytes =>
    match String.fromUTF8? bytes with
    | none => .error .notText
    | some text => ofText text

end Config

end Detour
