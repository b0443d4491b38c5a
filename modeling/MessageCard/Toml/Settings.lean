import MessageCard.Options.Basic
import MessageCard.Toml.Reader

/-!
Typed values out of TOML tables.  Each value is taken as it stands or refused; a record of
settings is filled name by name from the entries of a table.
-/

namespace MessageCard.Toml

/-- The text of a string. -/
def text? : Toml → Option String
  | string value => some value
  | _ => none

/-- The value of an integer that is not negative. -/
def nat? : Toml → Option Nat
  | integer (.ofNat value) => some value
  | _ => none

/-- The value of a boolean. -/
def flag? : Toml → Option Bool
  | boolean value => some value
  | _ => none

/-- The items of an array, of values or of tables. -/
def items? : Toml → Option (List Toml)
  | array items => some items
  | tables items => some (items.map (table .header))
  | _ => none

/-- The entries of a table. -/
def entries? : Toml → Option Entries
  | table _ entries => some entries
  | _ => none

/-- Whether a value is an array or a table that holds nothing. -/
def isHollow : Toml → Bool
  | array items => items.isEmpty
  | table _ entries => entries.isEmpty
  | tables items => items.isEmpty
  | _ => false

/-- A level: its name, or a table whose only entry has that name and holds nothing. -/
def level? : Toml → Option Level
  | string name => Level.ofName? name
  | table _ [(name, value)] => if value.isHollow then Level.ofName? name else none
  | _ => none

/-- A setting of a record: its name, and how its value is put in place. -/
structure Setting (α : Type) where
  name : String
  put : α → Toml → Option α

/-- A setting whose value is read and then put in place. -/
def Setting.of {α β : Type} (name : String) (inner : Toml → Option β) (put : α → β → α)
    : Setting α where
  name := name
  put := fun whole value => (inner value).map (put whole)

/-- Fills a record from a table.  Entries without a setting are refused or skipped. -/
def fill {α : Type} (settings : List (Setting α)) (isClosed : Bool) (whole : α)
    (entries : Entries) : Option α :=
  entries.foldlM
    (fun whole (name, value) =>
      match settings.find? (·.name == name) with
      | some setting => setting.put whole value
      | none => if isClosed then none else some whole)
    whole

/-- Fills a record from the items of an array, in the order of the settings.  What one list
has more than the other is left alone. -/
def fillInOrder {α : Type} : List (Setting α) → List Toml → α → Option α
  | setting :: settings, value :: values, whole => do
      fillInOrder settings values (← setting.put whole value)
  | _, _, whole => some whole

end MessageCard.Toml
