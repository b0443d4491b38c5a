import MessageCard.Card.Tag

/-!
The ways in which a value can break the contract of its place in a card.
-/

namespace MessageCard

/-- A breach of the contract of a value's place. -/
inductive Fault
  | elementMissing
  | elementNotObject
  | tagMissing
  | divTextMissing
  | divTextNotPlain
  | divContentMissing
  | imageKeyMissing
  | imageAltMissing
  | imageWidthNotNumber
  | noteChildrenMissing
  | noteChildNotObject
  | childContentMissing (tag : ChildTag)
  | columnsMissing
  | columnNotObject
  | columnElementsNotArray
  | headerNotObject
  | titleMissing
  | templateUnknown (found : String)
  | titleTagMissing
  | titleNotPlain
  | titleEmpty
  | bodyNotArray
  | bodyMissing
deriving DecidableEq, Repr

/-- The wording of a fault. -/
def Fault.message : Fault → String
  | elementMissing => "element is required"
  | elementNotObject => "element must be an object"
  | tagMissing => "element.tag is required"
  | divTextMissing => "div.text is required"
  | divTextNotPlain => "div.text.tag must be plain_text"
  | divContentMissing => "div.text.content is required"
  | imageKeyMissing => "img.img_key is required"
  | imageAltMissing => "img.alt is required"
  | imageWidthNotNumber => "img.custom_width must be number"
  | noteChildrenMissing => "note.elements is required"
  | noteChildNotObject => "note.elements item must be an object"
  | childContentMissing tag => tag.name ++ ".content is required"
  | columnsMissing => "column_set.columns is required"
  | columnNotObject => "column must be an object"
  | columnElementsNotArray => "column.elements must be an array"
  | headerNotObject => "header must be an object"
  | titleMissing => "header.title is required"
  | templateUnknown found =>
      "header.template should be one of " ++ Template.allowed ++ ", but got " ++ found
  | titleTagMissing => "header.title.tag is required"
  | titleNotPlain => "header.title.tag must be plain_text"
  | titleEmpty => "header.title.content or header.title.i18n is required"
  | bodyNotArray => "elements must be an array"
  | bodyMissing => "elements is required"

end MessageCard
