import MessageCard.Card.Document
import MessageCard.Card.Element

/-!
The sections of a card that are shown, read from a document: the header, which may be absent,
and the body.  Each is what it should be, or the first fault found in it.
-/

namespace MessageCard

/-- The header of a card. -/
inductive Header
  | faulty (fault : Fault)
  | titled (template : Template) (title : LocalizedText)

namespace Header

/-- Reads the color template of a header; without one the standard template holds. -/
def templateOf : Option Json → Except Fault Template
  | none => .ok .standard
  | some .null => .ok .standard
  | some (.string name) =>
      match Template.ofName? name with
      | some template => .ok template
      | none => .error (.templateUnknown name)
  | some value => .error (.templateUnknown value.kind)

/-- Reads the title of a header. -/
def withTitle (template : Template) (title : Fields) : Header :=
  let text := LocalizedText.ofFields title
  match (Json.field? title "tag").bind Json.string? with
  | none => faulty .titleTagMissing
  | some tag =>
      if tag != "plain_text" then faulty .titleNotPlain
      else if !text.isPopulated then faulty .titleEmpty
      else titled template text

/-- Reads a header. -/
def ofJson (value : Json) : Header :=
  match value.object? with
  | none => faulty .headerNotObject
  | some fields =>
      match Json.objectField? fields "title" with
      | none => faulty .titleMissing
      | some title =>
          match templateOf (Json.field? fields "template") with
          | .error fault => faulty fault
          | .ok template => withTitle template title

end Header

/-- The body of a card. -/
inductive Body
  | faulty (fault : Fault)
  | elements (items : List Element)

namespace Body

/-- Reads the body of a card, which must be given. -/
def ofJson : Option Json → Body
  | none => faulty .bodyMissing
  | some (.array items) => elements (Element.listOfJson items)
  | some _ => faulty .bodyNotArray

/-- The elements of the body; a faulty body has none. -/
def items : Body → List Element
  | faulty _ => []
  | elements items => items

end Body

/-- A card as read, with the number of the source that it came from. -/
structure Card where
  header : Option Header
  body : Body
  sourceId : Nat

/-- Reads the card of a document. -/
def Card.ofDocument (document : Document) : Card where
  header := document.header.map Header.ofJson
  body := Body.ofJson document.elements
  sourceId := document.sourceId

end MessageCard
