import MessageCard.Card.Fault
import MessageCard.Card.LocalizedText
import MessageCard.Json.Writer

/-!
The parts of a card as read from JSON.  Each value is read for its place: it is what its tag
says, or the first fault found in it.  Reading does not depend on options, so every choice of
options sees the same card.
-/

namespace MessageCard

/-- The wording of a tag in messages: a string as it stands, anything else as JSON. -/
def tagText : Option Json → String
  | none => "(missing)"
  | some (.string text) => text
  | some value => value.compact

/-- An image: the key of its resource, and the text that stands for it. -/
structure Image where
  key : String
  alt : LocalizedText

/-- The text that stands for an image: a string, a text object, or nothing. -/
def altText : Json → LocalizedText
  | .string text => .fixed text
  | .object fields => .ofFields fields
  | _ => .empty

/-- Reads the key and the alternative text of an image. -/
def Image.ofFields (fields : Fields) : Except Fault Image :=
  match Json.stringField? fields "img_key", Json.truthyField? fields "alt" with
  | none, _ => .error .imageKeyMissing
  | some _, none => .error .imageAltMissing
  | some key, some alt => .ok { key, alt := altText alt }

/-- A child of a note. -/
inductive Child
  | faulty (fault : Fault)
  | unknown (tag : String)
  | plain (content : String)
  | markdown (content : String)
  | image (image : Image) (preview : Bool)

namespace Child

/-- Reads the content of a text child. -/
def content (tag : ChildTag) (fields : Fields) (make : String → Child) : Child :=
  match Json.stringField? fields "content" with
  | some content => make content
  | none => faulty (.childContentMissing tag)

/-- Reads a child of a note. -/
def ofJson (value : Json) : Child :=
  match value.object? with
  | none => faulty .noteChildNotObject
  | some fields =>
      let tag := Json.field? fields "tag"
      match (tag.bind Json.string?).bind ChildTag.ofName? with
      | none => unknown (tagText tag)
      | some .plainText => content .plainText fields plain
      | some .larkMd => content .larkMd fields markdown
      | some .img =>
          match Image.ofFields fields with
          | .error fault => faulty fault
          | .ok shown =>
              image shown (((Json.field? fields "preview").bind Json.bool?).getD true)

end Child

mutual

/-- An element of a card body. -/
inductive Element
  | faulty (fault : Fault)
  | unknown (tag : String)
  | deferred (tag : ElementTag)
  | div (content : String)
  | hr
  | img (image : Image) (compact : Bool) (width : Option Double)
  | note (children : List Child)
  | columnSet (columns : List Column)

/-- A column of a column set. -/
inductive Column
  | faulty (fault : Fault)
  | elements (items : List Element)

end

namespace Element

/-- Reads the text of a `div`. -/
def divOfFields (fields : Fields) : Element :=
  match Json.objectField? fields "text" with
  | none => faulty .divTextMissing
  | some text =>
      if (Json.field? text "tag").bind Json.string? = some "plain_text" then
        match Json.stringField? text "content" with
        | some content => div content
        | none => faulty .divContentMissing
      else faulty .divTextNotPlain

/-- Reads an `img`: a width that counts as given must be a number. -/
def imgOfFields (fields : Fields) : Element :=
  match Image.ofFields fields with
  | .error fault => faulty fault
  | .ok image =>
      let compact := (Json.truthyField? fields "compact_width").isSome
      match Json.truthyField? fields "custom_width" with
      | none => img image compact none
      | some width =>
          match width.numeric? with
          | some number => img image compact (some number)
          | none => faulty .imageWidthNotNumber

/-- Reads a `note`, which has at least one child. -/
def noteOfFields (fields : Fields) : Element :=
  match Json.arrayField? fields "elements" with
  | some children => note (children.map Child.ofJson)
  | none => faulty .noteChildrenMissing

/-- Reads a `column_set`, which has at least one column, from its columns as read. -/
def columnSetOf (columns : Option (List Column)) : Element :=
  match columns with
  | some [] => faulty .columnsMissing
  | some columns => columnSet columns
  | none => faulty .columnsMissing

end Element

mutual

/-- Reads an element. -/
def Element.ofJson : Json → Element
  | .null => .faulty .elementMissing
  | .object fields =>
      let tag := Json.field? fields "tag"
      if !tag.any Json.isTruthy then .faulty .tagMissing
      else
        match (tag.bind Json.string?).bind ElementTag.ofName? with
        | none => .unknown (tagText tag)
        | some .div => .divOfFields fields
        | some .hr => .hr
        | some .img => .imgOfFields fields
        | some .note => .noteOfFields fields
        | some .columnSet => .columnSetOf (columnsField fields)
        | some .actions => .deferred .actions
        | some .markdown => .deferred .markdown
  | .bool _ => .faulty .elementNotObject
  | .number _ => .faulty .elementNotObject
  | .string _ => .faulty .elementNotObject
  | .array _ => .faulty .elementNotObject

/-- Reads the items of an array as elements. -/
def Element.listOfJson : List Json → List Element
  | [] => []
  | item :: rest => Element.ofJson item :: Element.listOfJson rest

/-- Reads the columns of the first field of that name, if it is an array. -/
def columnsField : List (String × Json) → Option (List Column)
  | [] => none
  | (name, value) :: rest =>
      if name = "columns" then
        match value with
        | .array items => some (Column.listOfJson items)
        | _ => none
      else columnsField rest

/-- Reads the items of an array as columns. -/
def Column.listOfJson : List Json → List Column
  | [] => []
  | item :: rest => Column.ofJson item :: Column.listOfJson rest

/-- Reads a column. -/
def Column.ofJson : Json → Column
  | .object fields => elementsField fields
  | _ => .faulty .columnNotObject

/-- Reads the elements of a column from the first field of that name; a column without them
is empty. -/
def elementsField : List (String × Json) → Column
  | [] => .elements []
  | (name, value) :: rest =>
      if name = "elements" then
        match value with
        | .null => .elements []
        | .array items => .elements (Element.listOfJson items)
        | _ => .faulty .columnElementsNotArray
      else elementsField rest

end

end MessageCard
