import MessageCard.Diagnostic
import MessageCard.Json.Reader

/-!
Card documents.  A text that is JSON and an object at the top is a document; its sections are
kept as they stand, and a section that is `null` counts as missing.
-/

namespace MessageCard

/-- Why a text is no document. -/
inductive Malformation
  | notJson
  | notObject
deriving DecidableEq, Repr

/-- A refusal of a text, with the part of it that is to blame. -/
structure DocumentError where
  kind : Malformation
  message : String
  span : Span
  sourceId : Nat
  notes : List String
deriving DecidableEq, Repr

namespace DocumentError

/-- The refusal of a text that is not JSON. -/
def notJson (message : String) (span : Span) (sourceId : Nat) : DocumentError :=
  { kind := .notJson, message, span, sourceId, notes := [] }

/-- The refusal of a text whose value is something other than an object. -/
def notObject (found : String) (span : Span) (sourceId : Nat) : DocumentError where
  kind := .notObject
  message := "card document must be a JSON object"
  span := span
  sourceId := sourceId
  notes := ["found " ++ found]

/-- The form in which the refusal is shown. -/
def report (error : DocumentError) : Report where
  severity := .error
  message := error.message
  labels := [(error.sourceId, error.span)]
  notes := error.notes

/-- The refusal as a report about the document. -/
def diagnostic (error : DocumentError) : Diagnostic where
  cause := .malformedDocument error.message
  path := none
  span := some error.span
  sourceId := error.sourceId
  isWarning := false
  notes := error.notes

end DocumentError

/-- The sections of a card document. -/
structure Document where
  config : Option Json
  header : Option Json
  elements : Option Json
  sourceId : Nat

namespace Document

/-- A section of a document; `null` counts as missing. -/
def presentField? (fields : Fields) (name : String) : Option Json :=
  (Json.field? fields name).filter (!·.isNull)

/-- The document of the fields of an object. -/
def ofFields (fields : Fields) (sourceId : Nat) : Document where
  config := presentField? fields "config"
  header := presentField? fields "header"
  elements := presentField? fields "elements"
  sourceId := sourceId

/-- The place of a failure to read JSON, as an empty range.  It is within the text, so that its
sum fits into a machine word. -/
def failureSpan (source : List Char) (failure : Json.Reader.Failure) : Span :=
  let offset := (failure.position source).offset (utf8 source)
  { start := offset, stop := offset }

/-- The range of a source without the white space at its end. -/
def wholeSpan (source : List Char) : Span :=
  { start := 0, stop := utf8Length (Text.trimRight source) }

/-- Reads a source text as a document. -/
def read (source : String) (sourceId : Nat) : Except DocumentError Document :=
  let text := source.toList
  match Json.Reader.readText text with
  | .error failure =>
      .error (.notJson ("malformed card document: " ++ failure.message text)
        (failureSpan text failure) sourceId)
  | .ok (.object fields) => .ok (ofFields fields sourceId)
  | .ok value => .error (.notObject value.kind (wholeSpan text) sourceId)

end Document

end MessageCard
