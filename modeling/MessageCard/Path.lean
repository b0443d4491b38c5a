/-!
Places in a card document: the fields and indices that lead from the document to a value.
-/

namespace MessageCard

/-- One step into a value. -/
inductive Step
  | field (name : String)
  | index (position : Nat)
deriving DecidableEq, Repr

/-- The steps that lead to a value. -/
structure Path where
  steps : List Step
deriving DecidableEq, Repr

namespace Path

/-- The path of a top-level field of the document. -/
def top (name : String) : Path :=
  { steps := [.field name] }

/-- The path to a field of the value. -/
def field (path : Path) (name : String) : Path :=
  { steps := path.steps ++ [.field name] }

/-- The path to an item of the value. -/
def item (path : Path) (position : Nat) : Path :=
  { steps := path.steps ++ [.index position] }

/-- A step as it follows others. -/
def stepText : Step → String
  | .field name => "." ++ name
  | .index position => "[" ++ toString position ++ "]"

/-- The path as messages show it, such as `elements[1].columns[0]`. -/
def text (path : Path) : String :=
  match path.steps with
  | .field name :: rest => name ++ String.join (rest.map stepText)
  | steps => String.join (steps.map stepText)

end Path

end MessageCard
