import MessageCard.Compilation.Card
import MessageCard.Proofs.CardReading

/-! The grammar of card documents and the tree that a document of the grammar stands for, both
stated about the document itself.  The grammar knows nothing of locales and trees; the tree knows
nothing of checks and levels of nesting, and its texts are what the localized ones show.
-/

namespace MessageCard

-----------------------------------------------------------------------------------------
-- The grammar
-----------------------------------------------------------------------------------------

/-- The field is a string that is not empty. -/
def HasText (fields : Fields) (name : String) : Prop :=
  ∃ text, Json.field? fields name = some (.string text) ∧ text ≠ ""

/-- The fields name an image: a key, and an alternative text that counts as given. -/
def HasImage (fields : Fields) : Prop :=
  HasText fields "img_key"
  ∧ ∃ alt, Json.field? fields "alt" = some alt ∧ alt.isTruthy = true

/-- The field `text` is a text object with plain content. -/
def HasPlainText (fields : Fields) : Prop :=
  ∃ text,
    Json.field? fields "text" = some (.object text)
    ∧ Json.field? text "tag" = some (.string "plain_text")
    ∧ HasText text "content"

/-- A custom width that counts as given is a number or reads as one. -/
def HasWidth (fields : Fields) : Prop :=
  ∀ width,
    Json.field? fields "custom_width" = some width
    → width.isTruthy = true
    → ∃ number, width.numeric? = some number

/-- The template is left out, `null` or one of the names. -/
def HasTemplate (fields : Fields) : Prop :=
  Json.field? fields "template" = none
  ∨ Json.field? fields "template" = some .null
  ∨ ∃ template : Template, Json.field? fields "template" = some (.string template.name)

/-- The title has the tag of plain text, and a content or a table of variants. -/
def HasTitle (title : Fields) : Prop :=
  Json.field? title "tag" = some (.string "plain_text")
  ∧ (HasText title "content" ∨ ∃ table, Json.field? title "i18n" = some (.object table))

/-- The value is a header: an object with a title and a template. -/
def Json.IsHeader (value : Json) : Prop :=
  ∃ fields title,
    value = .object fields
    ∧ Json.field? fields "title" = some (.object title)
    ∧ HasTitle title
    ∧ HasTemplate fields

/-- The value is a child of a note: a text of either kind, or an image. -/
inductive Json.IsChild : Json → Prop
  | text {fields} (tag : ChildTag) (textual : tag ≠ .img)
    (named : Json.field? fields "tag" = some (.string tag.name))
    (content : HasText fields "content")
    : IsChild (.object fields)
  | image {fields} (named : Json.field? fields "tag" = some (.string ChildTag.img.name))
    (image : HasImage fields)
    : IsChild (.object fields)

/-- The value is an element on a level of nesting.  The columns of a set are objects; those with
entries are one level deeper, which must be within the limit.
-/
inductive Json.IsElement (limit : Nat) : Nat → Json → Prop
  | deferred {level fields} (tag : ElementTag) (deferred : tag.isDeferred = true)
    (named : Json.field? fields "tag" = some (.string tag.name))
    : IsElement limit level (.object fields)
  | div {level fields}
    (named : Json.field? fields "tag" = some (.string ElementTag.div.name))
    (text : HasPlainText fields)
    : IsElement limit level (.object fields)
  | hr {level fields}
    (named : Json.field? fields "tag" = some (.string ElementTag.hr.name))
    : IsElement limit level (.object fields)
  | img {level fields}
    (named : Json.field? fields "tag" = some (.string ElementTag.img.name))
    (image : HasImage fields) (width : HasWidth fields)
    : IsElement limit level (.object fields)
  | note {level fields children}
    (named : Json.field? fields "tag" = some (.string ElementTag.note.name))
    (listed : Json.field? fields "elements" = some (.array children))
    (filled : children ≠ []) (each : ∀ child ∈ children, child.IsChild)
    : IsElement limit level (.object fields)
  | columnSet {level fields columns}
    (named : Json.field? fields "tag" = some (.string ElementTag.columnSet.name))
    (listed : Json.field? fields "columns" = some (.array columns))
    (filled : columns ≠ [])
    (shaped : ∀ column ∈ columns, ∃ entries, column.columnEntries? = some entries)
    (within
      : ∀ column ∈ columns,
          ∀ entries,
            column.columnEntries? = some entries → entries ≠ [] → level + 1 ≤ limit)
    (below
      : ∀ column ∈ columns,
          ∀ entries,
            column.columnEntries? = some entries
            → ∀ entry ∈ entries, IsElement limit (level + 1) entry)
    : IsElement limit level (.object fields)

/-- The document is in the grammar: its header, if it is there, is a header, and its elements are
an array of elements on the first level.
-/
structure Document.Grammatical (limit : Nat) (document : Document) : Prop where
  header : ∀ header, document.header = some header → header.IsHeader
  body
    : ∃ entries,
        document.elements = some (.array entries)
        ∧ ∀ entry ∈ entries, entry.IsElement limit 1

-----------------------------------------------------------------------------------------
-- The text that is shown in a locale
-----------------------------------------------------------------------------------------

namespace LocalizedText

variable {text : LocalizedText} {locale : Option String}

/-- The entry is the variant of the text for the locale. -/
def HasVariant (text : LocalizedText) (locale : Option String) (entry : String) : Prop :=
  ∃ name table,
    locale = some name ∧ text.variants = some table ∧ table.lookup name = some entry

/-- What the text shows in the locale: the variant if it is not empty, else the content if it is not
empty, else nothing.
-/
inductive Shows (text : LocalizedText) (locale : Option String) : String → Prop
  | variant {entry} (found : text.HasVariant locale entry) (filled : entry ≠ "")
    : Shows text locale entry
  | content {content} (blank : ∀ entry, text.HasVariant locale entry → entry = "")
    (found : text.content = some content) (filled : content ≠ "")
    : Shows text locale content
  | nothing (blank : ∀ entry, text.HasVariant locale entry → entry = "")
    (missing : ∀ content, text.content = some content → content = "")
    : Shows text locale ""

/-- The entry of a locale is found by looking it up. -/
theorem hasVariant_iff {entry : String}
    : text.HasVariant locale entry
      ↔ (locale.bind fun name => text.variants.bind (·.lookup name)) = some entry := by
  simp only [HasVariant, Option.bind_eq_some_iff, exists_and_left]

/-- What is displayed is what the text shows, cases on whether there are a variant and a content. -/
theorem resolve_shows (text : LocalizedText) (locale : Option String)
    : text.Shows locale (text.resolve locale) := by
  rw [resolve]
  cases chosen : (locale.bind fun name => text.variants.bind (·.lookup name)).filter (· != "") with
  | some entry =>
      obtain ⟨found, filled⟩ := Option.filter_eq_some_iff.mp chosen
      exact .variant (hasVariant_iff.mpr found) (bne_iff_ne.mp filled)
  | none =>
      have blank (entry : String) (found : text.HasVariant locale entry) : entry = "" := by
        simpa using Option.filter_eq_none_iff.mp chosen entry (hasVariant_iff.mp found)
      cases kept : text.content.filter (· != "") with
      | some content =>
          obtain ⟨found, filled⟩ := Option.filter_eq_some_iff.mp kept
          exact .content blank found (bne_iff_ne.mp filled)
      | none =>
          refine .nothing blank fun content found => ?_
          simpa using Option.filter_eq_none_iff.mp kept content found

/-- A text shows one thing in a locale, cases on what it shows of its parts. -/
theorem Shows.unique {shown other : String} (first : text.Shows locale shown)
    (second : text.Shows locale other)
    : shown = other := by
  cases first with
  | variant found filled =>
      cases second with
      | variant again _ =>
          exact Option.some.inj ((hasVariant_iff.mp found).symm.trans (hasVariant_iff.mp again))
      | content blank _ _ => exact (filled (blank _ found)).elim
      | nothing blank _ => exact (filled (blank _ found)).elim
  | content blank found filled =>
      cases second with
      | variant variant present => exact (present (blank _ variant)).elim
      | content _ again _ => exact Option.some.inj (found.symm.trans again)
      | nothing _ missing => exact (filled (missing _ found)).elim
  | nothing blank missing =>
      cases second with
      | variant variant present => exact (present (blank _ variant)).elim
      | content _ found filled => exact (filled (missing _ found)).elim
      | nothing _ _ => rfl

theorem resolve_eq_iff {shown : String} : text.resolve locale = shown ↔ text.Shows locale shown :=
  ⟨fun same => same ▸ text.resolve_shows locale, (text.resolve_shows locale).unique⟩

end LocalizedText

-----------------------------------------------------------------------------------------
-- The tree that a document stands for
-----------------------------------------------------------------------------------------

namespace Json

/-- The text of a field, empty if there is none. -/
def textOf (fields : Fields) (name : String) : String :=
  (stringField? fields name).getD ""

/-- The items of a field, none if it is not an array. -/
def itemsOf (fields : Fields) (name : String) : List Json :=
  (arrayField? fields name).getD []

/-- The fields of a field, none if it is not an object. -/
def fieldsOf (fields : Fields) (name : String) : Fields :=
  (objectField? fields name).getD []

/-- The alternative text of an image for a locale. -/
def altOf (locale : Option String) (fields : Fields) : String :=
  (((truthyField? fields "alt").map altText).getD .empty).resolve locale

theorem sizeOf_lt_of_itemsOf {fields : Fields} {name : String} {item : Json}
    (member : item ∈ itemsOf fields name)
    : sizeOf item < sizeOf (object fields) := by
  cases found : arrayField? fields name with
  | none => simp [itemsOf, found] at member
  | some items =>
      rw [itemsOf, found] at member
      exact sizeOf_lt_of_item (arrayField?_eq_some_iff.mp found).1 member

/-- The node of a header: the template is a class and an attribute, the title the text. -/
def headerNode (locale : Option String) (fields : Fields) : Node :=
  let template := ((stringField? fields "template").bind Template.ofName?).getD .standard
  { kind := .header
    classes := [Style.header, template.name]
    content := .text ((LocalizedText.ofFields (fieldsOf fields "title")).resolve locale)
    attrs := { template := some template } }

/-- The node of an image in the body. -/
def imageNode (locale : Option String) (fields : Fields) : Node :=
  let compact := (truthyField? fields "compact_width").isSome
  { kind := .img
    classes := [Style.element, Kind.img.name] ++ (if compact then [Style.compact] else [])
    content := .locator (imageEndpoint ++ textOf fields "img_key")
    attrs := {
      compact
      customWidth :=
        ((truthyField? fields "custom_width").bind numeric?).map ImageSize.clampWidth
      alt := some (altOf locale fields) } }

/-- The node of an image in a note; its preview is on unless it is switched off. -/
def childImageNode (locale : Option String) (fields : Fields) : Node where
  kind := .embeddedImg
  classes := [Style.embedded, Style.embeddedImg]
  content := .locator (imageEndpoint ++ textOf fields "img_key")
  attrs := {
    size := some 16
    preview := some (((field? fields "preview").bind bool?).getD true)
    alt := some (altOf locale fields) }

/-- The node of a text in a note. -/
def childTextNode (fields : Fields) (inlines : String → List Run) : Node where
  kind := .embeddedText
  classes := [Style.embedded, Style.embeddedText]
  content := .text (textOf fields "content")
  attrs := { inlines := inlines (textOf fields "content") }

/-- The node of a child of a note, by its tag. -/
def childNode? (locale : Option String) : Json → Option Node
  | .object fields =>
      match ChildTag.ofName? (textOf fields "tag") with
      | some .plainText => some (childTextNode fields (fun _ => []))
      | some .larkMd => some (childTextNode fields Run.ofMarkdown)
      | some .img => some (childImageNode locale fields)
      | none => none
  | _ => none

mutual

/-- The node of an element, by its tag; the deferred ones have none. -/
def elementNode? (locale : Option String) (entry : Json) : Option Node :=
  match entry with
  | .object fields =>
      match ElementTag.ofName? (textOf fields "tag") with
      | some .div =>
          some ((Node.element .div).withText (textOf (fieldsOf fields "text") "content"))
      | some .hr => some (Node.element .hr)
      | some .img => some (imageNode locale fields)
      | some .note =>
          some ((Node.element .note).withChildren
            ((itemsOf fields "elements").filterMap (childNode? locale)))
      | some .columnSet =>
          some ((Node.element .columnSet).withChildren
            ((itemsOf fields "columns").attach.map fun column => columnNode locale column.val))
      | _ => none
  | _ => none
termination_by sizeOf entry
decreasing_by exact sizeOf_lt_of_itemsOf column.property

/-- The node of a column: its elements that have nodes, in order. -/
def columnNode (locale : Option String) (column : Json) : Node :=
  (Node.new .column [Style.column]).withChildren
    (column.entriesOf.attach.filterMap fun entry => elementNode? locale entry.val)
termination_by sizeOf column
decreasing_by exact sizeOf_lt_of_entriesOf entry.property

end

end Json

/-- The tree of a document: the node of its header, if it has one, and the container of the
nodes of its elements.
-/
def Document.mirror (locale : Option String) (document : Document) : Node :=
  let header := (document.header.bind Json.object?).map (Json.headerNode locale)
  let entries := (document.elements.bind Json.array?).getD []
  (Node.new .root [Style.card]).withChildren
    (header.toList ++
      [(Node.new .elementsContainer [Style.elements]).withChildren
        (entries.filterMap (Json.elementNode? locale))])

end MessageCard
