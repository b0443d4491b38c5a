import MessageCard.Card.Section
import MessageCard.Proofs.ReadParts

/-! Cards that are read alike.  Documents that are akin in the fields read are read as one card, but
for the wording of unknown tags; each text of the card has any property that is shared by the texts
of the document.
-/

namespace MessageCard

open Json Document

-----------------------------------------------------------------------------------------
-- Cards that are read alike
-----------------------------------------------------------------------------------------

variable {Shown : LocalizedText → Prop} {Tags : String → String → Prop}

/-- The children are one but for the wording of an unknown tag; the text that stands for an image
has the property.
-/
inductive Child.Alike (Shown : LocalizedText → Prop) (Tags : String → String → Prop)
    : Child → Child → Prop
  | faulty (fault : Fault) : Alike Shown Tags (.faulty fault) (.faulty fault)
  | unknown {tag other : String} (tags : Tags tag other)
    : Alike Shown Tags (.unknown tag) (.unknown other)
  | plain (content : String) : Alike Shown Tags (.plain content) (.plain content)
  | markdown (content : String) : Alike Shown Tags (.markdown content) (.markdown content)
  | image {image : Image} (shown : Shown image.alt) (preview : Bool)
    : Alike Shown Tags (.image image preview) (.image image preview)

mutual

/-- The elements are one but for the wording of unknown tags; the texts that stand for images have
the property.
-/
inductive Element.Alike (Shown : LocalizedText → Prop) (Tags : String → String → Prop)
    : Element → Element → Prop
  | faulty (fault : Fault) : Element.Alike Shown Tags (.faulty fault) (.faulty fault)
  | unknown {tag other : String} (tags : Tags tag other)
    : Element.Alike Shown Tags (.unknown tag) (.unknown other)
  | deferred (tag : ElementTag) : Element.Alike Shown Tags (.deferred tag) (.deferred tag)
  | div (content : String) : Element.Alike Shown Tags (.div content) (.div content)
  | hr : Element.Alike Shown Tags .hr .hr
  | img {image : Image} (shown : Shown image.alt) (compact : Bool) (width : Option Double)
    : Element.Alike Shown Tags (.img image compact width) (.img image compact width)
  | note {children others : List Child}
    (each : List.Forall₂ (Child.Alike Shown Tags) children others)
    : Element.Alike Shown Tags (.note children) (.note others)
  | columnSet {columns others : List Column}
    (each : List.Forall₂ (Column.Alike Shown Tags) columns others)
    : Element.Alike Shown Tags (.columnSet columns) (.columnSet others)

/-- The columns are one but for such elements. -/
inductive Column.Alike (Shown : LocalizedText → Prop) (Tags : String → String → Prop)
    : Column → Column → Prop
  | faulty (fault : Fault) : Column.Alike Shown Tags (.faulty fault) (.faulty fault)
  | elements {items others : List Element}
    (each : List.Forall₂ (Element.Alike Shown Tags) items others)
    : Column.Alike Shown Tags (.elements items) (.elements others)

end

/-- The headers are one; the title has the property. -/
inductive Header.Alike (Shown : LocalizedText → Prop) : Header → Header → Prop
  | faulty (fault : Fault) : Alike Shown (.faulty fault) (.faulty fault)
  | titled (template : Template) {title : LocalizedText} (shown : Shown title)
    : Alike Shown (.titled template title) (.titled template title)

/-- The bodies are one but for such elements. -/
inductive Body.Alike (Shown : LocalizedText → Prop) (Tags : String → String → Prop)
    : Body → Body → Prop
  | faulty (fault : Fault) : Alike Shown Tags (.faulty fault) (.faulty fault)
  | elements {items others : List Element}
    (each : List.Forall₂ (Element.Alike Shown Tags) items others)
    : Alike Shown Tags (.elements items) (.elements others)

/-- The cards come from one source and are one but for such headers and bodies. -/
structure Card.Alike (Shown : LocalizedText → Prop) (Tags : String → String → Prop)
    (card other : Card) : Prop where
  header : Option.Rel (Header.Alike Shown) card.header other.header
  body : Body.Alike Shown Tags card.body other.body
  sourceId : card.sourceId = other.sourceId

/-- Values that are akin carry the same texts, which have the property, and tags that may be worded
differently.
-/
structure Wording (Akin : Part → Json → Json → Prop) (Shown : LocalizedText → Prop)
    (Tags : String → String → Prop) : Prop
    extends Kinship Akin where
  fixed : ∀ text, Shown (.fixed text)
  empty : Shown .empty
  text
    : ∀ {part : Part} {fields others : Fields},
        part = .alt ∨ part = .title
        → Akin part (.object fields) (.object others)
        → LocalizedText.ofFields others = .ofFields fields ∧ Shown (.ofFields fields)
  tag
    : ∀ {part : Part} {fields others : Fields},
        part = .element ∨ part = .child
        → Akin part (.object fields) (.object others)
        → Tags (tagText (field? fields "tag")) (tagText (field? others "tag"))

section

variable {Akin : Part → Json → Json → Prop} {part : Part} {value other : Json}
  {fields others : Fields}

/-- The text that stands for an image is the same in akin values; cases on the value. -/
theorem Wording.altText_eq (wording : Wording Akin Shown Tags)
    (akin : Akin .alt value other)
    : altText other = altText value ∧ Shown (altText value) := by
  cases value with
  | object fields =>
      obtain ⟨others, rfl, _⟩ := wording.object akin
      exact wording.text (Or.inl rfl) akin
  | array items =>
      obtain ⟨others, rfl, _⟩ := wording.array akin
      exact ⟨rfl, wording.empty⟩
  | string text =>
      rw [wording.scalar akin rfl rfl]
      exact ⟨rfl, wording.fixed text⟩
  | _ =>
      rw [wording.scalar akin rfl rfl]
      exact ⟨rfl, wording.empty⟩

/-- An image is read alike from a key and an alternative text that are akin. -/
theorem Wording.image_eq (wording : Wording Akin Shown Tags)
    (key : Option.Rel (Akin .plain) (presentField? fields "img_key")
      (presentField? others "img_key"))
    (alt : Option.Rel (Akin .alt) (presentField? fields "alt") (presentField? others "alt"))
    : Image.ofFields others = Image.ofFields fields
      ∧ ∀ image, Image.ofFields fields = .ok image → Shown image.alt := by
  simp only [Image.ofFields, wording.stringField_eq key]
  cases stringField? fields "img_key" with
  | none => exact ⟨rfl, fun image read => by cases read⟩
  | some key =>
      rcases wording.truthyField_cases alt with
        ⟨missing, again⟩ | ⟨found, more, given, again, same⟩
      · simp only [missing, again]
        exact ⟨trivial, fun image read => by cases read⟩
      · obtain ⟨sameText, shown⟩ := wording.altText_eq same
        simp only [given, again, sameText]
        refine ⟨trivial, fun image read => ?_⟩
        cases read
        exact shown

theorem Wording.div_alike (wording : Wording Akin Shown Tags)
    (text : Option.Rel (Akin .text) (presentField? fields "text") (presentField? others "text"))
    : Element.Alike Shown Tags (Element.divOfFields fields) (Element.divOfFields others) := by
  simp only [Element.divOfFields]
  rcases wording.objectField_cases text with
    ⟨missing, again⟩ | ⟨found, more, isObject, again, same⟩
  · simp only [missing, again]
    exact .faulty _
  · obtain ⟨inside, shape, reads⟩ := wording.object same
    cases shape
    have tag := reads _ rfl "tag" .plain (by simp)
    have content := reads _ rfl "content" .plain (by simp)
    simp only [isObject, again, wording.string_eq tag, wording.stringField_eq content]
    split
    · cases stringField? found "content" with
      | none => exact .faulty _
      | some content => exact .div content
    · exact .faulty _

theorem Wording.img_alike (wording : Wording Akin Shown Tags)
    (each
      : ∀ name inner,
          (name, inner) ∈ ElementTag.img.reads
          → Option.Rel (Akin inner) (presentField? fields name) (presentField? others name))
    : Element.Alike Shown Tags (Element.imgOfFields fields) (Element.imgOfFields others) := by
  have key := each "img_key" .plain (by simp [ElementTag.reads])
  have alt := each "alt" .alt (by simp [ElementTag.reads])
  have compact := each "compact_width" .plain (by simp [ElementTag.reads])
  have width := each "custom_width" .plain (by simp [ElementTag.reads])
  have sameCompact
      : (truthyField? others "compact_width").isSome
        = (truthyField? fields "compact_width").isSome := by
    rcases wording.truthyField_cases compact with ⟨missing, again⟩ | ⟨_, _, given, again, _⟩
    · rw [missing, again]
    · rw [given, again]
      rfl
  obtain ⟨sameImage, shown⟩ := wording.image_eq key alt
  simp only [Element.imgOfFields, sameImage, sameCompact]
  cases read : Image.ofFields fields with
  | error fault => exact .faulty fault
  | ok image =>
      have shown := shown image read
      rcases wording.truthyField_cases width with
        ⟨missing, again⟩ | ⟨found, more, given, again, same⟩
      · simp only [missing, again]
        exact .img shown _ none
      · have sameNumber : more.numeric? = found.numeric? :=
          wording.eq_of_shallow same numeric? (fun _ _ => rfl) (fun _ _ => rfl)
        simp only [given, again, sameNumber]
        cases found.numeric? with
        | none => exact .faulty _
        | some number => exact .img shown _ (some number)

/-- A text child is read alike from a content that is akin. -/
theorem Wording.content_alike (wording : Wording Akin Shown Tags) (tag : ChildTag)
    {make : String → Child}
    (content
      : Option.Rel (Akin .plain) (presentField? fields "content")
          (presentField? others "content"))
    (made : ∀ content, Child.Alike Shown Tags (make content) (make content))
    : Child.Alike Shown Tags (Child.content tag fields make) (Child.content tag others make) := by
  simp only [Child.content, wording.stringField_eq content]
  cases stringField? fields "content" with
  | none => exact .faulty _
  | some content => exact made content

/-- A child of a note is read alike from akin values, by cases on its tag. -/
theorem Wording.child_alike (wording : Wording Akin Shown Tags)
    (akin : Akin .child value other)
    : Child.Alike Shown Tags (Child.ofJson value) (Child.ofJson other) := by
  cases value with
  | object fields =>
      obtain ⟨others, rfl, reads⟩ := wording.object akin
      have each := reads _ rfl
      have sameTag := wording.string_eq (each "tag" .plain (by simp))
      simp only [Child.ofJson, object?, sameTag]
      cases named : ((field? fields "tag").bind string?).bind ChildTag.ofName? with
      | none => exact .unknown (wording.tag (Or.inr rfl) akin)
      | some tag =>
          have own (name : String) (inner : Part) (listed : (name, inner) ∈ tag.reads)
              : Option.Rel (Akin inner) (presentField? fields name)
                  (presentField? others name) := by
            refine each name inner (List.mem_cons_of_mem _ ?_)
            simpa [tagName?, named] using listed
          cases tag with
          | plainText =>
              have content := own "content" .plain (by simp [ChildTag.reads])
              exact wording.content_alike .plainText content .plain
          | larkMd =>
              have content := own "content" .plain (by simp [ChildTag.reads])
              exact wording.content_alike .larkMd content .markdown
          | img =>
              have key := own "img_key" .plain (by simp [ChildTag.reads])
              have alt := own "alt" .alt (by simp [ChildTag.reads])
              have preview := own "preview" .plain (by simp [ChildTag.reads])
              obtain ⟨sameImage, shown⟩ := wording.image_eq key alt
              simp only [sameImage, wording.bool_eq preview]
              cases read : Image.ofFields fields with
              | error fault => exact .faulty fault
              | ok image => exact .image (shown image read) _
  | array items =>
      obtain ⟨others, rfl, _⟩ := wording.array akin
      exact .faulty _
  | _ =>
      rw [wording.scalar akin rfl rfl]
      exact .faulty _

end

-----------------------------------------------------------------------------------------
-- Elements and columns
-----------------------------------------------------------------------------------------

/-- Lists whose members are related stay so when they are mapped, by list induction. -/
theorem forall₂_map_of_mem {α β γ δ : Type} {R : α → β → Prop} {S : γ → δ → Prop} {f : α → γ}
    {g : β → δ} {items : List α} {others : List β} (each : List.Forall₂ R items others)
    (lift : ∀ item ∈ items, ∀ other, R item other → S (f item) (g other))
    : List.Forall₂ S (items.map f) (others.map g) := by
  induction each with
  | nil => exact .nil
  | cons first _ ih =>
      refine .cons (lift _ List.mem_cons_self _ first) (ih ?_)
      intro item member other related
      exact lift item (List.mem_cons_of_mem _ member) other related

/-- The reading of an object as an element: by its tag, if that counts as given. -/
theorem Element.ofJson_object (fields : Fields)
    : Element.ofJson (.object fields)
      = match truthyField? fields "tag" with
        | none => .faulty .tagMissing
        | some value =>
            match (tagName? fields).bind ElementTag.ofName? with
            | none => .unknown (tagText (some value))
            | some tag => .ofTagged fields tag := by
  cases found : field? fields "tag" with
  | none => simp only [Element.ofJson, truthyField?, tagName?, found]; rfl
  | some value =>
      cases truthy : value.isTruthy with
      | false =>
          simp only [Element.ofJson, truthyField?, found, truthy, Option.any_some,
            Option.filter_some]
          rfl
      | true =>
          simp only [Element.ofJson, truthyField?, tagName?, found, truthy, Option.any_some,
            Option.filter_some, Option.bind_some, Bool.not_true, if_true]
          cases value.string?.bind ElementTag.ofName? with
          | none => rfl
          | some tag =>
              cases tag with
              | columnSet => exact columnSetOf_columnsField fields
              | _ => rfl

/-- The reading of an object as a column, by induction over its fields. -/
theorem Column.ofJson_object (fields : Fields)
    : Column.ofJson (.object fields)
      = match presentField? fields "elements" with
        | none => .elements []
        | some value =>
            match value.array? with
            | some entries => .elements (entries.map Element.ofJson)
            | none => .faulty .columnElementsNotArray := by
  rw [Column.ofJson]
  induction fields with
  | nil => rfl
  | cons first rest ih =>
      rcases first with ⟨name, value⟩
      by_cases same : name = "elements"
      · subst same
        have here : presentField? (("elements", value) :: rest) "elements"
            = (some value).filter (!·.isNull) := by
          simp only [presentField?, field?, List.lookup_cons_self]
        rw [here]
        cases value with
        | array items =>
            simp only [elementsField, if_true, Element.listOfJson_eq_map]
            rfl
        | _ =>
            simp only [elementsField, if_true]
            rfl
      · have other : ("elements" == name) = false := by simpa using Ne.symm same
        have later : presentField? ((name, value) :: rest) "elements"
            = presentField? rest "elements" := by
          simp only [presentField?, field?, List.lookup_cons, other]
        rw [elementsField_skip value rest same, ih, later]

section

variable {Akin : Part → Json → Json → Prop}

/-- A column is read alike from akin values when its entries are. -/
theorem Wording.column_alike (wording : Wording Akin Shown Tags) {column other : Json}
    (akin : Akin .column column other)
    (below
      : ∀ entry more,
          sizeOf entry < sizeOf column
          → Akin .element entry more
          → Element.Alike Shown Tags (Element.ofJson entry) (Element.ofJson more))
    : Column.Alike Shown Tags (Column.ofJson column) (Column.ofJson other) := by
  cases column with
  | object fields =>
      obtain ⟨others, rfl, reads⟩ := wording.object akin
      have elements := reads _ rfl "elements" .elements (by simp)
      simp only [Column.ofJson_object]
      cases found : presentField? fields "elements" with
      | none =>
          rw [found] at elements
          generalize presentField? others "elements" = again at elements ⊢
          cases elements
          exact .elements .nil
      | some value =>
          rw [found] at elements
          generalize presentField? others "elements" = again at elements ⊢
          cases elements with
          | some same =>
              cases value with
              | array entries =>
                  obtain ⟨more, rfl, each⟩ := wording.array same
                  have listed := (presentField?_eq_some_iff.mp found).1
                  refine .elements (forall₂_map_of_mem (each _ rfl) ?_)
                  intro entry member other akin
                  exact below entry other (sizeOf_lt_of_item listed member) akin
              | object inside =>
                  obtain ⟨more, rfl, _⟩ := wording.object same
                  exact .faulty _
              | _ =>
                  rw [wording.scalar same rfl rfl]
                  exact .faulty _
  | array items =>
      obtain ⟨others, rfl, _⟩ := wording.array akin
      exact .faulty _
  | _ =>
      rw [wording.scalar akin rfl rfl]
      exact .faulty _

theorem Wording.note_alike (wording : Wording Akin Shown Tags) {fields others : Fields}
    (children
      : Option.Rel (Akin .children) (presentField? fields "elements")
          (presentField? others "elements"))
    : Element.Alike Shown Tags (Element.noteOfFields fields) (Element.noteOfFields others) := by
  simp only [Element.noteOfFields]
  rcases wording.arrayField_cases children rfl with
    ⟨missing, again⟩ | ⟨found, more, listed, again, same⟩
  · simp only [missing, again]
    exact .faulty _
  · simp only [listed, again]
    exact .note (forall₂_map_of_mem same fun _ _ _ akin => wording.child_alike akin)

/-- A set is read alike when the entries of its columns are, which are smaller than the set. -/
theorem Wording.columnSet_alike (wording : Wording Akin Shown Tags) {fields others : Fields}
    (columns
      : Option.Rel (Akin .columns) (presentField? fields "columns")
          (presentField? others "columns"))
    (below
      : ∀ entry more,
          sizeOf entry < sizeOf (Json.object fields)
          → Akin .element entry more
          → Element.Alike Shown Tags (Element.ofJson entry) (Element.ofJson more))
    : Element.Alike Shown Tags (Element.ofTagged fields .columnSet)
        (Element.ofTagged others .columnSet) := by
  simp only [Element.ofTagged]
  rcases wording.arrayField_cases columns rfl with
    ⟨missing, again⟩ | ⟨found, more, filled, again, same⟩
  · simp only [missing, again]
    exact .faulty _
  · simp only [filled, again]
    have listed := (arrayField?_eq_some_iff.mp filled).1
    refine .columnSet (forall₂_map_of_mem same ?_)
    intro column member other akin
    have smaller := sizeOf_lt_of_item listed member
    refine wording.column_alike akin fun entry more inside same => ?_
    exact below entry more (Nat.lt_trans inside smaller) same

/-- An element is read alike from akin values.  By recursion over the value: cases on its tag, and
for a set the entries of its columns.
-/
theorem Wording.element_alike (wording : Wording Akin Shown Tags) {value other : Json}
    (akin : Akin .element value other)
    : Element.Alike Shown Tags (Element.ofJson value) (Element.ofJson other) := by
  cases value with
  | object fields =>
      obtain ⟨others, rfl, reads⟩ := wording.object akin
      have each := reads _ rfl
      have tagged := each "tag" .plain (by simp)
      have sameName : tagName? others = tagName? fields := wording.string_eq tagged
      have tags := wording.tag (Or.inl rfl) akin
      simp only [Element.ofJson_object, sameName]
      rcases wording.truthyField_cases tagged with
        ⟨missing, again⟩ | ⟨found, more, given, again, _⟩
      · simp only [missing, again]
        exact .faulty _
      · simp only [given, again]
        cases named : (tagName? fields).bind ElementTag.ofName? with
        | none =>
            rw [(truthyField?_eq_some_iff.mp given).1, (truthyField?_eq_some_iff.mp again).1]
              at tags
            exact .unknown tags
        | some tag =>
            have own (name : String) (inner : Part) (listed : (name, inner) ∈ tag.reads)
                : Option.Rel (Akin inner) (presentField? fields name)
                    (presentField? others name) := by
              refine each name inner (List.mem_cons_of_mem _ ?_)
              simpa [named] using listed
            cases tag with
            | actions => exact .deferred _
            | markdown => exact .deferred _
            | hr => exact .hr
            | div =>
                exact wording.div_alike (own "text" .text (by simp [ElementTag.reads]))
            | img => exact wording.img_alike own
            | note =>
                exact wording.note_alike (own "elements" .children (by simp [ElementTag.reads]))
            | columnSet =>
                have columns := own "columns" .columns (by simp [ElementTag.reads])
                exact wording.columnSet_alike columns fun entry more smaller same =>
                  wording.element_alike same
  | array items =>
      obtain ⟨others, rfl, _⟩ := wording.array akin
      simp only [Element.ofJson]
      exact .faulty _
  | _ =>
      rw [wording.scalar akin rfl rfl]
      simp only [Element.ofJson]
      exact .faulty _
termination_by sizeOf value

-----------------------------------------------------------------------------------------
-- Sections
-----------------------------------------------------------------------------------------

/-- A template that is `null` is a missing one. -/
theorem Header.templateOf_eq (fields : Fields)
    : Header.templateOf (field? fields "template")
      = Header.templateOf (presentField? fields "template") := by
  rw [presentField?]
  cases field? fields "template" with
  | none => rfl
  | some value => cases value <;> rfl

theorem Wording.withTitle_alike (wording : Wording Akin Shown Tags) (template : Template)
    {title other : Fields} (akin : Akin .title (.object title) (.object other))
    : Header.Alike Shown (Header.withTitle template title)
        (Header.withTitle template other) := by
  obtain ⟨sameText, shown⟩ := wording.text (Or.inr rfl) akin
  obtain ⟨others, shape, reads⟩ := wording.object akin
  cases shape
  have tag := reads _ rfl "tag" .plain (by simp)
  simp only [Header.withTitle, sameText, wording.string_eq tag]
  cases (field? title "tag").bind string? with
  | none => exact .faulty _
  | some name =>
      dsimp only
      split
      · exact .faulty _
      · split
        · exact .faulty _
        · exact .titled template shown

/-- A header is read alike from akin values: its title, and the name of its template. -/
theorem Wording.header_alike (wording : Wording Akin Shown Tags) {value other : Json}
    (akin : Akin .header value other)
    : Header.Alike Shown (Header.ofJson value) (Header.ofJson other) := by
  cases value with
  | object fields =>
      obtain ⟨others, rfl, reads⟩ := wording.object akin
      have title := reads _ rfl "title" .title (by simp)
      have template := reads _ rfl "template" .plain (by simp)
      have sameTemplate : Header.templateOf (presentField? others "template")
          = Header.templateOf (presentField? fields "template") := by
        generalize presentField? fields "template" = field,
          presentField? others "template" = again at template ⊢
        cases template with
        | none => rfl
        | some same =>
            exact wording.eq_of_shallow same (fun value => Header.templateOf (some value))
              (fun _ _ => rfl) (fun _ _ => rfl)
      simp only [Header.ofJson, object?, Header.templateOf_eq, sameTemplate]
      rcases wording.objectField_cases title with
        ⟨missing, again⟩ | ⟨found, more, isObject, again, same⟩
      · simp only [missing, again]
        exact .faulty _
      · simp only [isObject, again]
        cases Header.templateOf (presentField? fields "template") with
        | error fault => exact .faulty fault
        | ok template => exact wording.withTitle_alike template same
  | array items =>
      obtain ⟨others, rfl, _⟩ := wording.array akin
      exact .faulty _
  | _ =>
      rw [wording.scalar akin rfl rfl]
      exact .faulty _

theorem Wording.body_alike (wording : Wording Akin Shown Tags) {elements others : Option Json}
    (akin : Option.Rel (Akin .elements) elements others)
    : Body.Alike Shown Tags (Body.ofJson elements) (Body.ofJson others) := by
  cases akin with
  | none => exact .faulty _
  | @some value other same =>
      cases value with
      | array items =>
          obtain ⟨more, rfl, each⟩ := wording.array same
          simp only [Body.ofJson, Element.listOfJson_eq_map]
          exact .elements (forall₂_map_of_mem (each _ rfl) fun _ _ _ akin =>
            wording.element_alike akin)
      | object fields =>
          obtain ⟨more, rfl, _⟩ := wording.object same
          exact .faulty _
      | _ =>
          rw [wording.scalar same rfl rfl]
          exact .faulty _

/-- The documents are akin in the sections that are shown; their configurations may differ. -/
structure Document.AkinIn (Akin : Part → Json → Json → Prop) (document other : Document) : Prop where
  header : Option.Rel (Akin .header) document.header other.header
  elements : Option.Rel (Akin .elements) document.elements other.elements
  sourceId : document.sourceId = other.sourceId

/-- Akin documents are read as the same card, but for the wording of unknown tags. -/
theorem Wording.card_alike (wording : Wording Akin Shown Tags) {document other : Document}
    (akin : document.AkinIn Akin other)
    : Card.Alike Shown Tags (Card.ofDocument document) (Card.ofDocument other) where
  header := by
    rw [Card.ofDocument, Card.ofDocument]
    have header := akin.header
    generalize document.header = value, other.header = again at header ⊢
    cases header with
    | none => exact .none
    | some same => exact .some (wording.header_alike same)
  body := wording.body_alike akin.elements
  sourceId := akin.sourceId

/-- The documents of the fields of akin objects are akin. -/
theorem Kinship.document_akin (kin : Kinship Akin) {fields others : Fields}
    (akin : Akin .document (.object fields) (.object others)) (sourceId : Nat)
    : (Document.ofFields fields sourceId).AkinIn Akin (Document.ofFields others sourceId) := by
  obtain ⟨more, shape, reads⟩ := kin.object akin
  cases shape
  exact
    { header := reads _ rfl "header" .header (by simp)
      elements := reads _ rfl "elements" .elements (by simp)
      sourceId := rfl }

end

end MessageCard
