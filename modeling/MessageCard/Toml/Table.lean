/-!
TOML values, and the rules by which keys and headers fill tables.  A table remembers how it
came to be, since that decides who may still add to it.
-/

namespace MessageCard

/-- How a table came to be. -/
inductive Toml.Origin
  | header
  | longerHeader
  | dottedKey
  | inline
deriving DecidableEq, Repr

/-- A TOML value.  Numbers with a fraction and points in time are kept as written. -/
inductive Toml
  | string (value : String)
  | integer (value : Int)
  | float (spelling : String)
  | time (spelling : String)
  | boolean (value : Bool)
  | array (items : List Toml)
  | table (origin : Toml.Origin) (entries : List (String × Toml))
  | tables (items : List (List (String × Toml)))

namespace Toml

/-- The names of a table with their values. -/
abbrev Entries :=
  List (String × Toml)

/-- The value of a name. -/
def lookup (name : String) (entries : Entries) : Option Toml :=
  (entries.find? fun entry => entry.1 == name).map Prod.snd

/-- Gives a name a value, in place of the one it had. -/
def put (name : String) (value : Toml) : Entries → Entries
  | [] => [(name, value)]
  | (other, old) :: rest =>
      if other = name then (name, value) :: rest else (other, old) :: put name value rest

/-- Gives a new name a value. -/
def putNew (name : String) (value : Toml) (entries : Entries) : Option Entries :=
  match lookup name entries with
  | none => some (put name value entries)
  | some _ => none

/-- Changes the table that a path leads to.  Tables that are missing on the way come to be as
`way` says; an array of tables stands for its last one.  An inline table is complete, and a
dotted key does not enter a table that has a header. -/
def within (way : Origin) : List String → (Origin → Entries → Option Entries)
    → Origin → Entries → Option Entries
  | [], change, origin, entries => change origin entries
  | name :: path, change, _, entries =>
      match lookup name entries with
      | none =>
          (within way path change way []).map fun inner =>
            put name (.table way inner) entries
      | some (.table origin inner) =>
          if origin = .inline ∨ (way = .dottedKey ∧ origin = .header) then none
          else
            (within way path change origin inner).map fun inner =>
              put name (.table origin inner) entries
      | some (.tables items) =>
          match items.getLast? with
          | none => none
          | some last =>
              (within way path change .header last).map fun inner =>
                put name (.tables (items.dropLast ++ [inner])) entries
      | some _ => none

/-- A name behind the names of the tables that lead to it. -/
structure Key where
  path : List String
  name : String
deriving DecidableEq, Repr

/-- Gives a key of a table a value.  Only tables that dotted keys made are entered this way. -/
def addEntry (key : Key) (value : Toml) (origin : Origin) (entries : Entries)
    : Option Entries :=
  within .dottedKey key.path
    (fun origin inner =>
      if key.path.isEmpty ∨ origin = .dottedKey then putNew key.name value inner else none)
    origin entries

/-- Gives keys of a table their values, in order. -/
def addEntries (keys : List (Key × Toml)) (origin : Origin) (entries : Entries)
    : Option Entries :=
  keys.foldlM (fun entries (key, value) => addEntry key value origin entries) entries

/-- A header with the keys below it; a repeated header adds a table to an array. -/
structure Block where
  key : Key
  isRepeated : Bool
  keys : List (Key × Toml)

/-- Puts the table of a header in place.  It is new, or was implied by longer headers. -/
def Block.addTable (block : Block) (entries : Entries) : Option Entries :=
  match lookup block.key.name entries with
  | none =>
      (addEntries block.keys .header []).map fun inner =>
        put block.key.name (.table .header inner) entries
  | some (.table .longerHeader inner) =>
      (addEntries block.keys .header inner).map fun inner =>
        put block.key.name (.table .header inner) entries
  | some _ => none

/-- Adds the table of a repeated header to its array. -/
def Block.addElement (block : Block) (entries : Entries) : Option Entries :=
  match lookup block.key.name entries with
  | none =>
      (addEntries block.keys .header []).map fun inner =>
        put block.key.name (.tables [inner]) entries
  | some (.tables items) =>
      (addEntries block.keys .header []).map fun inner =>
        put block.key.name (.tables (items ++ [inner])) entries
  | some _ => none

/-- Puts a block where its header says. -/
def Block.add (block : Block) (entries : Entries) : Option Entries :=
  within .longerHeader block.key.path
    (fun _ inner => if block.isRepeated then block.addElement inner else block.addTable inner)
    .header entries

/-- The table of a document: the keys above the first header, then the blocks in order. -/
def ofBlocks (keys : List (Key × Toml)) (blocks : List Block) : Option Entries := do
  let entries ← addEntries keys .header []
  blocks.foldlM (fun entries block => block.add entries) entries

end Toml

end MessageCard
