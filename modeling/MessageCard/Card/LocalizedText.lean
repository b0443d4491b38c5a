import MessageCard.Json.Value

/-!
A text with variants by locale.  Reading one leniently ignores what has the wrong form; the
display text for a locale is its variant, else the content, else nothing.
-/

namespace MessageCard

/-- A text with an optional table of variants by locale. -/
structure LocalizedText where
  content : Option String
  variants : Option (List (String × String))
deriving DecidableEq, Repr

namespace LocalizedText

/-- The text that carries nothing. -/
def empty : LocalizedText :=
  { content := none, variants := none }

/-- The text that reads the same in every locale. -/
def fixed (content : String) : LocalizedText :=
  { content := some content, variants := none }

/-- The entries of a table that are strings. -/
def stringEntries (table : Fields) : List (String × String) :=
  table.filterMap fun (locale, value) => value.string?.map (locale, ·)

/-- Reads the fields of a text object, ignoring what has the wrong form. -/
def ofFields (fields : Fields) : LocalizedText where
  content := (Json.field? fields "content").bind Json.string?
  variants := (Json.objectField? fields "i18n").map stringEntries

/-- Reads a text object, ignoring what has the wrong form. -/
def ofJson (value : Json) : LocalizedText :=
  match value.object? with
  | some fields => ofFields fields
  | none => empty

/-- The text as JSON; absent parts are left out. -/
def toJson (text : LocalizedText) : Json :=
  .object
    ((text.content.map fun content => ("content", Json.string content)).toList ++
      (text.variants.map fun table =>
        ("i18n", Json.object (table.map fun (locale, entry) => (locale, .string entry)))).toList)

/-- Whether the text has content or a table of variants, even an empty one. -/
def isPopulated (text : LocalizedText) : Bool :=
  text.content.any (· != "") || text.variants.isSome

/-- The display text for a locale: its variant, else the content; an empty one counts as
missing. -/
def resolve (text : LocalizedText) (locale : Option String) : String :=
  let variant := locale.bind fun locale =>
    text.variants.bind fun table => table.lookup locale
  ((variant.filter (· != "")).or (text.content.filter (· != ""))).getD ""

end LocalizedText

end MessageCard
