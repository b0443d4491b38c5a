import MessageCard.Proofs.AlikeCompilation

/-! What the locale decides.  It picks the words of a header and of the texts that stand for images,
and nothing else: which faults are found, what is reported and which nodes there are is the same in
every locale.  A document without tables of variants is compiled the same in all of them.
-/

namespace MessageCard

open Json Document

-----------------------------------------------------------------------------------------
-- Trees without words
-----------------------------------------------------------------------------------------

/-- The attributes of a node of the kind, where the text that stands for an image is left blank. -/
def Attrs.wordless (attrs : Attrs) (kind : Kind) : Attrs :=
  if kind = .img ∨ kind = .embeddedImg then { attrs with alt := attrs.alt.map fun _ => "" }
  else attrs

namespace Node

mutual

/-- The tree where the texts of headers, and those that stand for images, are left blank. -/
def wordless : Node → Node
  | ⟨kind, classes, content, attrs⟩ =>
      ⟨kind, classes, wordlessContent kind content, attrs.wordless kind⟩

/-- The content of a node of the kind, without the text of a header. -/
def wordlessContent (kind : Kind) : Content Node → Content Node
  | .empty => .empty
  | .text value => .text (if kind = .header then "" else value)
  | .locator value => .locator value
  | .children nodes => .children (wordlessAll nodes)

/-- Trees without those texts. -/
def wordlessAll : List Node → List Node
  | [] => []
  | node :: rest => node.wordless :: wordlessAll rest

end

/-- Nodes that are the same without words stay so as children, by list induction. -/
theorem wordlessAll_eq {nodes others : List Node}
    (each : List.Forall₂ (fun node other => node.wordless = other.wordless) nodes others)
    : wordlessAll nodes = wordlessAll others := by
  induction each with
  | nil => rfl
  | cons first _ ih => rw [wordlessAll, wordlessAll, first, ih]

theorem withChildren_wordless (node : Node) {nodes others : List Node}
    (each : List.Forall₂ (fun node other => node.wordless = other.wordless) nodes others)
    : (node.withChildren nodes).wordless = (node.withChildren others).wordless := by
  simp only [withChildren, wordless, wordlessContent, wordlessAll_eq each]

end Node

/-- The locale shows in words alone; witness: the other options are the same. -/
theorem Setting.wordless_likeness (level : Level) (maxDepth sourceId : Nat)
    (locale other : Option String)
    : Setting.Likeness (fun _ => True) Eq (fun node other => node.wordless = other.wordless) Eq
        { options := { level, locale, maxDepth }, sourceId }
        { options := { level, locale := other, maxDepth }, sourceId } where
  level := rfl
  maxDepth := rfl
  sourceId := rfl
  header _ _ _ := rfl
  image compact _ _ := by cases compact <;> rfl
  embeddedImage _ _ := rfl
  node _ := rfl
  withChildren node _ _ each := node.withChildren_wordless each
  report _ := rfl
  unknown _ _ _ _ _ _ tags := by rw [tags]

-----------------------------------------------------------------------------------------
-- Documents without variants
-----------------------------------------------------------------------------------------

namespace Json

mutual

/-- No object in the value has a table of variants by locale. -/
def isMonolingual : Json → Bool
  | object fields => (objectField? fields "i18n").isNone && fieldsMonolingual fields
  | array items => itemsMonolingual items
  | null => true
  | bool _ => true
  | number _ => true
  | string _ => true

/-- No item of the list has such a table in it. -/
def itemsMonolingual : List Json → Bool
  | [] => true
  | item :: rest => item.isMonolingual && itemsMonolingual rest

/-- No value of the fields has such a table in it. -/
def fieldsMonolingual : List (String × Json) → Bool
  | [] => true
  | (_, value) :: rest => value.isMonolingual && fieldsMonolingual rest

end

theorem isMonolingual_of_item {items : List Json} (all : itemsMonolingual items = true)
    {item : Json} (member : item ∈ items)
    : item.isMonolingual = true := by
  induction items with
  | nil => cases member
  | cons first rest ih =>
      rw [itemsMonolingual, Bool.and_eq_true] at all
      rcases List.mem_cons.mp member with rfl | later
      · exact all.1
      · exact ih all.2 later

theorem isMonolingual_of_field {fields : Fields} (all : fieldsMonolingual fields = true)
    {name : String} {value : Json} (found : field? fields name = some value)
    : value.isMonolingual = true := by
  induction fields with
  | nil => cases found
  | cons first rest ih =>
      rcases first with ⟨key, content⟩
      rw [fieldsMonolingual, Bool.and_eq_true] at all
      rw [field?, List.lookup_cons] at found
      split at found
      · obtain rfl := Option.some.inj found
        exact all.1
      · exact ih all.2 found

end Json

/-- The sections of the document that are shown have no tables of variants by locale. -/
structure Document.Monolingual (document : Document) : Prop where
  header : ∀ value ∈ document.header, value.isMonolingual = true
  elements : ∀ value ∈ document.elements, value.isMonolingual = true

/-- A value is akin to itself, where a property of values passes to their items and fields. -/
theorem Wording.of_hereditary {Allowed : Json → Prop} {Shown : LocalizedText → Prop}
    (item : ∀ {items : List Json}, Allowed (.array items) → ∀ item ∈ items, Allowed item)
    (field
      : ∀ {fields : Fields} {name : String} {value : Json},
          Allowed (.object fields) → field? fields name = some value → Allowed value)
    (fixed : ∀ text, Shown (.fixed text)) (empty : Shown .empty)
    (text : ∀ {fields : Fields}, Allowed (.object fields) → Shown (.ofFields fields))
    : Wording (fun _ value other => other = value ∧ Allowed value) Shown Eq where
  scalar akin _ _ := akin.1
  array := by
    rintro part items other ⟨rfl, allowed⟩
    refine ⟨items, rfl, fun _ _ => List.forall₂_same.mpr ?_⟩
    exact fun entry member => ⟨rfl, item allowed entry member⟩
  object := by
    rintro part fields other ⟨rfl, allowed⟩
    refine ⟨fields, rfl, ?_⟩
    intro names _ name inner _
    cases found : presentField? fields name with
    | none => exact .none
    | some value => exact .some ⟨rfl, field allowed (presentField?_eq_some_iff.mp found).1⟩
  fixed := fixed
  empty := empty
  text := by
    rintro part fields others _ ⟨same, allowed⟩
    cases same
    exact ⟨rfl, text allowed⟩
  tag := by
    rintro part fields others _ ⟨same, _⟩
    cases same
    rfl

/-- A document is akin to itself, where the sections that are shown have the property. -/
theorem Document.AkinIn.self {Allowed : Json → Prop} {document : Document}
    (header : ∀ value ∈ document.header, Allowed value)
    (elements : ∀ value ∈ document.elements, Allowed value)
    : document.AkinIn (fun _ value other => other = value ∧ Allowed value) document where
  header := by
    cases found : document.header with
    | none => exact .none
    | some value => exact .some ⟨rfl, header value found⟩
  elements := by
    cases found : document.elements with
    | none => exact .none
    | some value => exact .some ⟨rfl, elements value found⟩
  sourceId := rfl

/-- Values without tables of variants are shown as texts without variants. -/
theorem Json.monolingual_wording
    : Wording (fun _ value other => other = value ∧ value.isMonolingual = true)
        (fun text => text.variants = none) Eq := by
  refine .of_hereditary ?item ?field (fun _ => rfl) rfl ?text
  case item => exact fun all item member => isMonolingual_of_item all member
  case field =>
    intro fields name value all found
    rw [isMonolingual, Bool.and_eq_true] at all
    exact isMonolingual_of_field all.2 found
  case text =>
    intro fields all
    rw [isMonolingual, Bool.and_eq_true, Option.isNone_iff_eq_none] at all
    rw [LocalizedText.ofFields, all.1]
    rfl

/-- A text without variants reads the same in every locale. -/
theorem LocalizedText.resolve_of_no_variants {text : LocalizedText}
    (none : text.variants = none) (locale other : Option String)
    : text.resolve locale = text.resolve other := by
  rcases text with ⟨content, variants⟩
  cases none
  cases locale <;> cases other <;> rfl

/-- The words of the tree alone depend on the locale: a document either fails in any two locales,
with one report, or it succeeds in both, with the same warnings and with trees that are the same
without words.  Without tables of variants the compilations are the same.
-/
theorem Document.compile_locale (document : Document) (level : Level) (maxDepth : Nat)
    (locale other : Option String)
    : OutcomesAlike (fun tree other => tree.wordless = other.wordless) Eq
        (document.compile { level, locale, maxDepth })
        (document.compile { level, locale := other, maxDepth })
      ∧ (document.Monolingual
          → document.compile { level, locale, maxDepth }
            = document.compile { level, locale := other, maxDepth }) := by
  constructor
  · have wording
        : Wording (fun _ value other => other = value ∧ True) (fun _ => True) Eq :=
      .of_hereditary (fun _ _ _ => trivial) (fun _ _ => trivial) (fun _ => trivial) trivial
        fun _ => trivial
    have akin : document.AkinIn (fun _ value other => other = value ∧ True) document :=
      .self (fun _ _ => trivial) fun _ _ => trivial
    exact Document.compile_alike wording akin
      (Setting.wordless_likeness level maxDepth document.sourceId locale other)
  · intro monolingual
    have akin := Document.AkinIn.self monolingual.header monolingual.elements
    refine (Document.compile_alike monolingual_wording akin ?_).eq
    refine .of_display rfl rfl rfl ?_ (fun _ => rfl) ?_
    · exact fun text none => text.resolve_of_no_variants none locale other
    · intro field tag other allowed path sourceId tags
      rw [tags]

/-- A document with a title and an image, each in one language. -/
def Document.untranslated : Document where
  config := none
  header := some (.object
    [("title", .object [("tag", .string "plain_text"), ("content", .string "Weekly")])])
  elements := some (.array
    [.object
      [("tag", .string "img"), ("img_key", .string "k"),
        ("alt", .object [("content", .string "a chart"), ("i18n", .null)])]])
  sourceId := 0

/-- The document in one language is compiled the same for readers of German as for others. -/
theorem Document.untranslated_locale
    : untranslated.Monolingual
      ∧ untranslated.compile { level := .error, locale := some "de_de", maxDepth := 4 }
        = untranslated.compile { level := .error, locale := none, maxDepth := 4 } := by
  have monolingual : untranslated.Monolingual :=
    { header := by rintro value ⟨rfl⟩; decide
      elements := by rintro value ⟨rfl⟩; decide }
  exact ⟨monolingual, (compile_locale untranslated .error 4 (some "de_de") none).2 monolingual⟩

end MessageCard
