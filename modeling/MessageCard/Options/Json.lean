import MessageCard.Json.Typed
import MessageCard.Options.Basic

/-!
Options as JSON.
-/

namespace MessageCard.Options

open Json.Reader

/-- How options are read: missing fields take the defaults, other fields are refused. -/
def shape : Shape Options where
  name := "CompileOptions"
  fields := [
    .of "validate" (typedVariant Level.ofName? (Level.all.map Level.name))
      (fun options level => { options with level }),
    .of "locale" (typedOption typedString) (fun options locale => { options with locale }),
    .of "max_depth" typedNat (fun options maxDepth => { options with maxDepth })]
  isClosed := true
  initial := {}

/-- Reads options. -/
def ofJsonText (text : List Char) : Except Failure Options :=
  readTyped (typedShape shape) text

/-- The options as JSON. -/
def toJson (options : Options) : Json :=
  .object [
    ("validate", .string options.level.name),
    ("locale", (options.locale.map Json.string).getD .null),
    ("max_depth", .number (.integer options.maxDepth))]

end MessageCard.Options
