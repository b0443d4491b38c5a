import MessageCard.Card.LocalizedText
import MessageCard.Json.Typed

/-!
Reading a localized text strictly: what has the wrong form is refused, fields of other names
are skipped.
-/

namespace MessageCard.LocalizedText

open Json.Reader

/-- How a text is read: both of its parts may be missing. -/
def shape : Shape LocalizedText where
  name := "Text"
  fields := [
    .of "content" (typedOption typedString) (fun text content => { text with content }),
    .of "i18n" (typedOption typedTable) (fun text variants => { text with variants })]
  isClosed := false
  initial := empty

/-- Reads a text strictly. -/
def ofJsonText (text : List Char) : Except Failure LocalizedText :=
  readTyped (typedShape shape) text

end MessageCard.LocalizedText
