import Detour.Config.Schema

/-!
# Options of the command line
-/

namespace Detour

/-- What the command line asks for. -/
structure Options where
  /-- The file that holds the configuration. -/
  config : Option String := none
  silent : Bool := false
  verbose : Bool := false
deriving Repr, DecidableEq, Inhabited

/-- Why a command line is refused. -/
inductive UsageError where
  | missingFile
  | unknown (argument : String)
deriving Repr, DecidableEq, Inhabited

namespace UsageError

def message : UsageError → String
  | missingFile => "a value is required for '--config <CONFIG>'"
  | unknown argument => "unexpected argument '" ++ argument ++ "'"

end UsageError

namespace Options

/-- Reads on from the options found so far. -/
def read (o : Options) : List String → Except UsageError Options
  | [] => .ok o
  | "--silent" :: rest => read { o with silent := true } rest
  | "--verbose" :: rest => read { o with verbose := true } rest
  | "-v" :: rest => read { o with verbose := true } rest
  | "--config" :: file :: rest => read { o with config := some file } rest
  | "-c" :: file :: rest => read { o with config := some file } rest
  | ["--config"] => .error .missingFile
  | ["-c"] => .error .missingFile
  | argument :: _ => .error (.unknown argument)

/-- The options of a command line. -/
def ofArgs (args : List String) : Except UsageError Options := read {} args

/-- The configuration with what the options add to it. -/
def apply (o : Options) (c : Config) : Config :=
  { c with logging := { c.logging with
      silent := c.logging.silent || o.silent
      verbose := c.logging.verbose || o.verbose } }

end Options

end Detour
