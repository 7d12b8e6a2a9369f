import Detour.Config.Load
import Detour.Http.Message
import Detour.Http.Server
import Detour.Options

/-!
# The command line

Loads a configuration and answers the requests of the standard input, each of them ended by an empty
line. Events go to the standard error.
-/

namespace Detour

def Level.text : Level → String
  | .error => "ERROR"
  | .warn => "WARN"
  | .info => "INFO"
  | .debug => "DEBUG"

/-- The line of an event. -/
def Event.line (e : Event) : String :=
  " ".intercalate ([e.level.text, e.message] ++ e.fields.map fun f => f.1 ++ "=" ++ f.2.render)

def printEvents (events : List Event) : IO Unit :=
  events.forM fun e => IO.eprintln e.line

/-- The lines up to the next empty line. -/
partial def readBlock (input : IO.FS.Stream) (lines : List String) :
    IO (List String) := do
  let line ← input.getLine
  let text := trimmed line.toList
  if text.isEmpty then return lines.reverse else readBlock input (text :: lines)

/-- Answers requests until the input ends. -/
partial def answerAll (input : IO.FS.Stream) (s : Server) : IO Unit := do
  let lines ← readBlock input []
  if lines.isEmpty then return
  match Request.ofLines? lines with
  | none =>
    IO.println "400\n"
    answerAll input s
  | some r =>
    let served := s.serve r
    printEvents served.events
    IO.println ("\n".intercalate served.response.lines ++ "\n")
    answerAll input served.server

/-- The configuration of the options. -/
def readConfig (o : Options) : IO (Except ConfigError Config) := do
  match o.config with
  | none => return .ok {}
  | some file =>
    match ← (IO.FS.readBinFile file).toBaseIO with
    | .ok bytes => return Config.load (some bytes)
    | .error _ => return Config.load none

/-- Ends with a message. -/
def fail (message : String) : IO UInt32 := do
  IO.eprintln ("error: " ++ message)
  return 1

/-- Runs the server with the given options. -/
def runOptions (o : Options) : IO UInt32 := do
  match ← readConfig o with
  | .error e => fail e.message
  | .ok c =>
    let logging := (o.apply c).logging
    let logger := Logger.ofOptions logging.silent logging.verbose
    let (server, events) := Server.start c.rules logger .echo
    printEvents events
    answerAll (← IO.getStdin) server
    return 0

end Detour

open Detour in
/-- Runs the program on its arguments. -/
def main (args : List String) : IO UInt32 :=
  match Options.ofArgs args with
  | .error e => fail e.message
  | .ok o => runOptions o
