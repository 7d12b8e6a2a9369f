import Detour.Toml.Value

/-!
# The tables of a document

A document is built line by line. What may be added to a table depends on how it came about: by a
header, by the header of a table inside it, or by a dotted key. `Tree.insert` and the two
functions for headers refuse whatever would define something twice.
-/

namespace Detour

/-- How a table came about. -/
inductive TableKind where
  /-- It has a header or braces of its own. -/
  | defined
  /-- Only tables inside it have headers. -/
  | implied
  /-- It was named in a dotted key. -/
  | dotted
deriving Repr, DecidableEq, Inhabited

/-- A table under construction. -/
inductive TomlTree where
  | value (v : Toml)
  | table (kind : TableKind) (entries : List (String × TomlTree))
  /-- Tables with one header each, the latest first. -/
  | tables (kinds : List (List (String × TomlTree)))
deriving Repr, Inhabited

namespace TomlTree

abbrev Entries := List (String × TomlTree)

def lookup (name : String) (entries : Entries) : Option TomlTree :=
  (entries.find? fun e => e.1 = name).map Prod.snd

/-- Sets the entry of the given name, at its place or at the end. -/
def set (name : String) (t : TomlTree) : Entries → Entries
  | [] => [(name, t)]
  | e :: rest => if e.1 = name then (name, t) :: rest else e :: set name t rest

/-- Adds a value under a name that is new. -/
def insertNew (name : String) (v : Toml) (entries : Entries) : Option Entries :=
  if (lookup name entries).isSome then none else some (entries ++ [(name, .value v)])

/-- Changes the table that dotted keys lead to. They make the tables on their way, and they lead
only through tables without a header; the last one has to be theirs. -/
def onDotted (f : Entries → Option Entries) : List String → Entries → Option Entries
  | [], _ => none
  | [name], entries =>
    match lookup name entries with
    | none => (f []).map fun inner => set name (.table .dotted inner) entries
    | some (.table .dotted inner) =>
      (f inner).map fun inner => set name (.table .dotted inner) entries
    | some _ => none
  | name :: rest, entries =>
    match lookup name entries with
    | none => (onDotted f rest []).map fun inner => set name (.table .dotted inner) entries
    | some (.table .defined _) => none
    | some (.table kind inner) =>
      (onDotted f rest inner).map fun inner => set name (.table kind inner) entries
    | some (.tables (latest :: earlier)) =>
      (onDotted f rest latest).map fun latest => set name (.tables (latest :: earlier)) entries
    | some _ => none

/-- Adds a value under a key, whose last part is `name`. -/
def insert (path : List String) (name : String) (v : Toml) (entries : Entries) : Option Entries :=
  if path.isEmpty then insertNew name v entries else onDotted (insertNew name v) path entries

/-- Changes the table that the path of a header leads to, through the latest of several tables with
one header. -/
def onHeader (f : Entries → Option Entries) : List String → Entries → Option Entries
  | [], entries => f entries
  | name :: rest, entries =>
    match lookup name entries with
    | none => (onHeader f rest []).map fun inner => set name (.table .implied inner) entries
    | some (.table kind inner) =>
      (onHeader f rest inner).map fun inner => set name (.table kind inner) entries
    | some (.tables (latest :: earlier)) =>
      (onHeader f rest latest).map fun latest => set name (.tables (latest :: earlier)) entries
    | some _ => none

/-- Opens a table by its header, which may have been implied before. -/
def openTable (name : String) (entries : Entries) : Option Entries :=
  match lookup name entries with
  | none => some (set name (.table .defined []) entries)
  | some (.table .implied inner) => some (set name (.table .defined inner) entries)
  | some _ => none

/-- Opens one more table of those under one header. -/
def openItem (name : String) (entries : Entries) : Option Entries :=
  match lookup name entries with
  | none => some (set name (.tables [[]]) entries)
  | some (.tables items) => some (set name (.tables ([] :: items)) entries)
  | some _ => none

mutual

/-- The finished value. -/
def toToml : TomlTree → Toml
  | value v => v
  | table _ entries => .table (entriesToToml entries)
  | tables items => .array (itemsToToml items).reverse

def entriesToToml : List (String × TomlTree) → List (String × Toml)
  | [] => []
  | (name, t) :: rest => (name, t.toToml) :: entriesToToml rest

def itemsToToml : List (List (String × TomlTree)) → List Toml
  | [] => []
  | entries :: rest => .table (entriesToToml entries) :: itemsToToml rest

end

end TomlTree

end Detour
