import Detour.Toml.Lexeme
import Detour.Toml.Tree

/-!
# Reading TOML

`Toml.ofText?` reads a whole document.
-/

namespace Detour

namespace TomlText

/-- Levels of arrays and inline tables; one level less than this is the most. -/
def maxDepth : Nat := 80

/-- A word that stands for a value. -/
def word? (word : List Char) (v : Toml) (cs : List Char) : Option (Toml × List Char) :=
  if word.isPrefixOf cs then some (v, cs.drop word.length) else none

/-- A value that begins with a sign or a digit. -/
def numeric? (cs : List Char) : Option (Toml × List Char) :=
  (datetime? cs).orElse fun _ => number? cs

/-- A value on a single line, or a string. -/
def scalar? (cs : List Char) : Option (Toml × List Char) :=
  match cs with
  | [] => none
  | c :: _ =>
    if c = '"' || c = '\'' then (string? cs).map fun (s, rest) => (.string s, rest)
    else if c = '+' || c = '-' || c.isDigit then numeric? cs
    else if c = 't' then word? "true".toList (.boolean true) cs
    else if c = 'f' then word? "false".toList (.boolean false) cs
    else specialFloat? cs

mutual

/-- A value with `depth` levels of nesting left. Every turn of the three functions takes a
character or goes from one to the next, so twice the length of the text is fuel enough. -/
def readValue? : Nat → Nat → List Char → Option (Toml × List Char)
  | 0, _, _ => none
  | fuel + 1, depth, cs =>
    match cs with
    | '[' :: rest =>
      if depth = 0 then none
      else
        match skipLayout false rest with
        | some (']' :: rest) => some (.array [], rest)
        | some rest => readItems? fuel (depth - 1) [] rest
        | none => none
    | '\x7b' :: rest =>
      if depth = 0 then none
      else
        match skipBlanks rest with
        | '\x7d' :: rest => some (.table [], rest)
        | rest => readPairs? fuel (depth - 1) [] rest
    | cs => scalar? cs

/-- The items of an array up to its closing bracket; a comma may stand before that. -/
def readItems? : Nat → Nat → List Toml → List Char → Option (Toml × List Char)
  | 0, _, _, _ => none
  | fuel + 1, depth, acc, cs =>
    match readValue? fuel depth cs with
    | none => none
    | some (v, rest) =>
      match skipLayout false rest with
      | some (']' :: rest) => some (.array (v :: acc).reverse, rest)
      | some (',' :: rest) =>
        match skipLayout false rest with
        | some (']' :: rest) => some (.array (v :: acc).reverse, rest)
        | some rest => readItems? fuel depth (v :: acc) rest
        | none => none
      | _ => none

/-- The pairs of an inline table up to its closing brace. -/
def readPairs? : Nat → Nat → TomlTree.Entries → List Char → Option (Toml × List Char)
  | 0, _, _, _ => none
  | fuel + 1, depth, entries, cs =>
    match key? cs with
    | some (key, '=' :: rest) =>
      match readValue? fuel depth (skipBlanks rest) with
      | none => none
      | some (v, rest) =>
        match TomlTree.insert key.dropLast (key.getLastD "") v entries with
        | none => none
        | some entries =>
          match skipBlanks rest with
          | '\x7d' :: rest => some ((TomlTree.table .defined entries).toToml, rest)
          | ',' :: rest => readPairs? fuel depth entries rest
          | _ => none
    | _ => none

end

/-- A value. -/
def value? (cs : List Char) : Option (Toml × List Char) :=
  readValue? (2 * cs.length + 2) (maxDepth - 1) cs

/-- A document up to some line: all its tables, and the path of the one that is open. -/
structure Document where
  entries : TomlTree.Entries
  openPath : List String

/-- Reads a header, after its first bracket. -/
def header? (d : Document) (cs : List Char) : Option (Document × List Char) :=
  let opened (key : List String) (f : String → TomlTree.Entries → Option TomlTree.Entries) :=
    (TomlTree.onHeader (f (key.getLastD "")) key.dropLast d.entries).map fun entries =>
      (⟨entries, key⟩ : Document)
  match cs with
  | '[' :: rest =>
    match key? rest with
    | some (key, ']' :: ']' :: rest) => do
      return (← opened key TomlTree.openItem, ← lineEnd? rest)
    | _ => none
  | cs =>
    match key? cs with
    | some (key, ']' :: rest) => do
      return (← opened key TomlTree.openTable, ← lineEnd? rest)
    | _ => none

/-- Reads a key and its value. -/
def pair? (d : Document) (cs : List Char) : Option (Document × List Char) :=
  match key? cs with
  | some (key, '=' :: rest) => do
    let (v, rest) ← value? (skipBlanks rest)
    let rest ← lineEnd? rest
    let entries ←
      TomlTree.onHeader (TomlTree.insert key.dropLast (key.getLastD "") v) d.openPath d.entries
    return ({ d with entries := entries }, rest)
  | _ => none

/-- Reads line after line. Every turn takes a character, so the length of the text is fuel
enough. -/
def readLines? : Nat → Document → List Char → Option Document
  | 0, _, _ => none
  | fuel + 1, d, cs =>
    match skipBlanks cs with
    | [] => some d
    | '[' :: rest =>
      match header? d rest with
      | some (d, rest) => readLines? fuel d rest
      | none => none
    | cs =>
      match lineEnd? cs with
      | some rest => readLines? fuel d rest
      | none =>
        match pair? d cs with
        | some (d, rest) => readLines? fuel d rest
        | none => none

end TomlText

/-- The value of a document; a byte order mark at its start does not count. -/
def Toml.ofText? (text : String) : Option Toml :=
  let cs := match text.toList with
    | '\ufeff' :: rest => rest
    | cs => cs
  (TomlText.readLines? (cs.length + 1) ⟨[], []⟩ cs).map fun d =>
    (TomlTree.table .defined d.entries).toToml

end Detour
