/-!
Options of a compilation, and what each level of validation makes of a fault.
-/

namespace MessageCard

/-- How faults are treated. -/
inductive Level
  | off
  | warning
  | error
deriving DecidableEq, Repr

namespace Level

/-- The level as options spell it. -/
def name : Level → String
  | off => "off"
  | warning => "warning"
  | error => "error"

/-- Every level. -/
def all : List Level :=
  [off, warning, error]

/-- The level that options spell so. -/
def ofName? (text : String) : Option Level :=
  all.find? fun level => level.name == text

/-- The refusal of a name that is no level. -/
def refusal (text : String) : String :=
  "unknown validation level '" ++ text ++ "' (expected off, warning or error)"

end Level

/-- Options of a compilation. -/
structure Options where
  level : Level := .warning
  locale : Option String := none
  maxDepth : Nat := 32
deriving DecidableEq, Repr

end MessageCard
