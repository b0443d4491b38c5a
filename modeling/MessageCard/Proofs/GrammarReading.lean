import MessageCard.Proofs.DocumentGrammar

/-! The grammar against the way cards are read.  Wherever the grammar asks for something of the
fields of a value, reading the value finds just that; wherever it does not hold, reading finds a
fault.
-/

namespace MessageCard

open Json

-----------------------------------------------------------------------------------------
-- Fields of elements
-----------------------------------------------------------------------------------------

theorem hasText_iff {fields : Fields} {name : String}
    : HasText fields name ↔ ∃ text, stringField? fields name = some text := by
  simp only [HasText, stringField?_eq_some_iff]

/-- A text that a field has is the text of the field. -/
theorem stringField?_of_hasText {fields : Fields} {name : String}
    (has : HasText fields name)
    : stringField? fields name = some (textOf fields name) := by
  obtain ⟨text, found⟩ := hasText_iff.mp has
  rw [textOf, found, Option.getD_some]

theorem textOf_ne_empty {fields : Fields} {name : String} (has : HasText fields name)
    : textOf fields name ≠ "" :=
  (stringField?_eq_some_iff.mp (stringField?_of_hasText has)).2

theorem textOf_of_named {fields : Fields} {name text : String}
    (named : field? fields name = some (.string text)) (filled : text ≠ "")
    : textOf fields name = text := by
  rw [textOf, stringField?_eq_some_iff.mpr ⟨named, filled⟩, Option.getD_some]

/-- Fields that name an image are read as that image; any others are refused. -/
theorem imageOfFields_cases (fields : Fields)
    : (HasImage fields
        ∧ Image.ofFields fields
          = .ok
              { key := textOf fields "img_key"
                alt := ((truthyField? fields "alt").map altText).getD .empty })
      ∨ (¬ HasImage fields ∧ ∃ fault, Image.ofFields fields = .error fault) := by
  cases key : stringField? fields "img_key" with
  | none =>
      refine Or.inr ⟨fun has => ?_, .imageKeyMissing, by simp only [Image.ofFields, key]⟩
      simp [stringField?_of_hasText has.1] at key
  | some text =>
      cases alt : truthyField? fields "alt" with
      | none =>
          refine Or.inr ⟨fun has => ?_, .imageAltMissing, by simp only [Image.ofFields, key, alt]⟩
          obtain ⟨value, given⟩ := has.2
          simp [truthyField?_eq_some_iff.mpr given] at alt
      | some value =>
          refine Or.inl ⟨⟨hasText_iff.mpr ⟨text, key⟩, value, ?_⟩, ?_⟩
          · exact truthyField?_eq_some_iff.mp alt
          · simp only [Image.ofFields, key, alt, textOf, Option.getD_some, Option.map_some]

/-- The fields of a `div` with plain text are read as that text; any others are faulty. -/
theorem divOfFields_cases (fields : Fields)
    : (HasPlainText fields
        ∧ Element.divOfFields fields
          = .div (textOf (fieldsOf fields "text") "content"))
      ∨ (¬ HasPlainText fields ∧ ∃ fault, Element.divOfFields fields = .faulty fault) := by
  cases found : objectField? fields "text" with
  | none =>
      refine Or.inr ⟨fun has => ?_, .divTextMissing, by simp only [Element.divOfFields, found]⟩
      obtain ⟨text, listed, _⟩ := has
      simp [objectField?_eq_some_iff.mpr listed] at found
  | some text =>
      have only {other} (listed : field? fields "text" = some (.object other))
          : other = text := by
        rw [objectField?_eq_some_iff.mpr listed] at found
        exact Option.some.inj found
      by_cases plain : field? text "tag" = some (.string "plain_text")
      · cases content : stringField? text "content" with
        | none =>
            refine Or.inr ⟨fun has => ?_, .divContentMissing, ?_⟩
            · obtain ⟨other, listed, _, filled⟩ := has
              rw [only listed] at filled
              simp [stringField?_of_hasText filled] at content
            · simp only [Element.divOfFields, found, plain, Option.bind_some, string?, content,
                if_true]
        | some shown =>
            refine Or.inl ⟨⟨text, objectField?_eq_some_iff.mp found, plain,
              hasText_iff.mpr ⟨shown, content⟩⟩, ?_⟩
            simp only [Element.divOfFields, found, plain, Option.bind_some, string?, content,
              if_true, fieldsOf, textOf, Option.getD_some]
      · have other : ¬ (field? text "tag").bind string? = some "plain_text" := by
          intro tagged
          obtain ⟨value, listed, same⟩ := Option.bind_eq_some_iff.mp tagged
          cases value <;> simp_all [string?]
        refine Or.inr ⟨fun has => ?_, .divTextNotPlain, ?_⟩
        · obtain ⟨again, listed, tagged, _⟩ := has
          exact plain (only listed ▸ tagged)
        · simp only [Element.divOfFields, found, other, if_false]

/-- The fields of an `img` with an image and a width are read as those; any others are faulty.
-/
theorem imgOfFields_cases (fields : Fields)
    : ((HasImage fields ∧ HasWidth fields)
        ∧ Element.imgOfFields fields
          = .img
              { key := textOf fields "img_key"
                alt := ((truthyField? fields "alt").map altText).getD .empty }
              (truthyField? fields "compact_width").isSome
              ((truthyField? fields "custom_width").bind numeric?))
      ∨ (¬ (HasImage fields ∧ HasWidth fields)
        ∧ ∃ fault, Element.imgOfFields fields = .faulty fault) := by
  rcases imageOfFields_cases fields with ⟨has, image⟩ | ⟨lacks, fault, refused⟩
  · cases width : truthyField? fields "custom_width" with
    | none =>
        refine Or.inl ⟨⟨has, fun value listed truthy => ?_⟩, ?_⟩
        · simp [truthyField?_eq_some_iff.mpr ⟨listed, truthy⟩] at width
        · simp only [Element.imgOfFields, image, width, Option.bind_none]
    | some value =>
        cases number : value.numeric? with
        | none =>
            refine Or.inr ⟨fun both => ?_, .imageWidthNotNumber, by
              simp only [Element.imgOfFields, image, width, number]⟩
            obtain ⟨listed, truthy⟩ := truthyField?_eq_some_iff.mp width
            obtain ⟨_, reads⟩ := both.2 value listed truthy
            simp [number] at reads
        | some double =>
            refine Or.inl ⟨⟨has, fun other listed truthy => ?_⟩, ?_⟩
            · rw [truthyField?_eq_some_iff.mpr ⟨listed, truthy⟩] at width
              exact ⟨double, Option.some.inj width ▸ number⟩
            · simp only [Element.imgOfFields, image, width, number, Option.bind_some]
  · exact Or.inr ⟨fun both => lacks both.1, fault, by simp only [Element.imgOfFields, refused]⟩

theorem Json.isChild_text_iff {fields : Fields} {tag : ChildTag} (textual : tag ≠ .img)
    (named : field? fields "tag" = some (.string tag.name))
    : (Json.object fields).IsChild ↔ HasText fields "content" := by
  refine ⟨fun form => ?_, fun content => .text tag textual named content⟩
  cases form with
  | text _ _ _ content => exact content
  | image again _ =>
      have same := (childTag_found_iff.mpr named).symm.trans (childTag_found_iff.mpr again)
      exact (textual (Option.some.inj same)).elim

theorem Json.isChild_img_iff {fields : Fields}
    (named : field? fields "tag" = some (.string ChildTag.img.name))
    : (Json.object fields).IsChild ↔ HasImage fields := by
  refine ⟨fun form => ?_, fun image => .image named image⟩
  cases form with
  | text tag textual again _ =>
      have same := (childTag_found_iff.mpr again).symm.trans (childTag_found_iff.mpr named)
      exact (textual (Option.some.inj same)).elim
  | image _ image => exact image

/-- A child that is read by its tag is in the grammar, or is read as faulty. -/
theorem Child.ofTagged_cases {fields : Fields} {tag : ChildTag}
    (named : field? fields "tag" = some (.string tag.name))
    : (Json.object fields).IsChild
      ∨ (¬ (Json.object fields).IsChild
        ∧ ∃ fault, Child.ofTagged fields tag = .faulty fault) := by
  have content {tag : ChildTag} (make : String → Child)
      : HasText fields "content"
        ∨ (¬ HasText fields "content"
          ∧ ∃ fault, Child.content tag fields make = .faulty fault) := by
    cases found : stringField? fields "content" with
    | some text => exact Or.inl (hasText_iff.mpr ⟨text, found⟩)
    | none =>
        refine Or.inr ⟨fun has => ?_, .childContentMissing tag, by rw [Child.content, found]⟩
        simp [stringField?_of_hasText has] at found
  cases tag with
  | plainText =>
      rw [Json.isChild_text_iff (by decide) named]
      exact content .plain
  | larkMd =>
      rw [Json.isChild_text_iff (by decide) named]
      exact content .markdown
  | img =>
      rw [Json.isChild_img_iff named]
      rcases imageOfFields_cases fields with ⟨has, _⟩ | ⟨lacks, fault, refused⟩
      · exact Or.inl has
      · exact Or.inr ⟨lacks, fault, by rw [Child.ofTagged, refused]⟩

theorem itemsOf_of_listed {fields : Fields} {name : String} {items : List Json}
    (listed : field? fields name = some (.array items)) (filled : items ≠ [])
    : itemsOf fields name = items := by
  rw [itemsOf, arrayField?_eq_some_iff.mpr ⟨listed, filled⟩, Option.getD_some]

/-- A field that has items is an array of them. -/
theorem listed_of_mem_itemsOf {fields : Fields} {name : String} {item : Json}
    (member : item ∈ itemsOf fields name)
    : field? fields name = some (.array (itemsOf fields name)) := by
  rw [itemsOf] at member ⊢
  cases found : arrayField? fields name with
  | none => simp [found] at member
  | some items => exact (arrayField?_eq_some_iff.mp found).1

-----------------------------------------------------------------------------------------
-- Fields of headers
-----------------------------------------------------------------------------------------

/-- A template that is given, is not `null` and is none of the names is not in the grammar. -/
theorem not_hasTemplate {fields : Fields} {value : Json}
    (found : field? fields "template" = some value) (notNull : value ≠ .null)
    (unnamed : ∀ template : Template, value ≠ .string template.name)
    : ¬ HasTemplate fields := by
  rintro (absent | absent | ⟨template, named⟩)
  · cases found.symm.trans absent
  · exact notNull (Option.some.inj (found.symm.trans absent))
  · exact unnamed template (Option.some.inj (found.symm.trans named))

/-- A template of the grammar is read as the template of that name, or as the standard one; any
other value is refused.
-/
theorem templateOf_cases (fields : Fields)
    : (HasTemplate fields
        ∧ Header.templateOf (field? fields "template")
          = .ok (((stringField? fields "template").bind Template.ofName?).getD .standard))
      ∨ (¬ HasTemplate fields
        ∧ ∃ fault, Header.templateOf (field? fields "template") = .error fault) := by
  cases found : field? fields "template" with
  | none =>
      refine Or.inl ⟨Or.inl found, ?_⟩
      simp only [Header.templateOf, stringField?, found, Option.bind_none, Option.getD_none]
  | some value =>
      have refused (fault : Fault) (read : Header.templateOf (some value) = .error fault)
          (notNull : value ≠ .null)
          (unnamed : ∀ template : Template, value ≠ .string template.name)
          : ¬ HasTemplate fields
            ∧ ∃ fault, Header.templateOf (some value) = .error fault :=
        ⟨not_hasTemplate found notNull unnamed, fault, read⟩
      cases value with
      | null =>
          refine Or.inl ⟨Or.inr (Or.inl found), ?_⟩
          simp only [Header.templateOf, stringField?, found, Option.bind_some, nonEmptyString?,
            string?, Option.filter_none, Option.bind_none, Option.getD_none]
      | string name =>
          cases known : Template.ofName? name with
          | none =>
              refine Or.inr (refused (.templateUnknown name) ?_ (by simp) ?_)
              · simp only [Header.templateOf, known]
              · rintro template same
                rw [Json.string.inj same, Template.ofName?_name] at known
                cases known
          | some template =>
              obtain rfl : template.name = name := byName?_name known
              have filled : template.name ≠ "" := by cases template <;> decide
              refine Or.inl ⟨Or.inr (Or.inr ⟨template, found⟩), ?_⟩
              simp only [Header.templateOf, known,
                stringField?_eq_some_iff.mpr ⟨found, filled⟩, Option.bind_some,
                Option.getD_some]
      | bool _ => exact Or.inr (refused _ rfl (by simp) (by simp))
      | number _ => exact Or.inr (refused _ rfl (by simp) (by simp))
      | array _ => exact Or.inr (refused _ rfl (by simp) (by simp))
      | object _ => exact Or.inr (refused _ rfl (by simp) (by simp))

/-- A title is populated exactly when it has a content or a table of variants. -/
theorem isPopulated_iff {title : Fields}
    : (LocalizedText.ofFields title).isPopulated = true
      ↔ HasText title "content" ∨ ∃ table, field? title "i18n" = some (.object table) := by
  have filled
      : ((field? title "content").bind string?).any (· != "") = true
        ↔ HasText title "content" := by
    cases found : field? title "content" with
    | none => simp [HasText, found]
    | some value => cases value <;> simp [HasText, found, string?]
  have varied
      : ((objectField? title "i18n").map LocalizedText.stringEntries).isSome = true
        ↔ ∃ table, field? title "i18n" = some (.object table) := by
    simp only [Option.isSome_map, Option.isSome_iff_exists, objectField?_eq_some_iff]
  rw [LocalizedText.isPopulated, LocalizedText.ofFields, Bool.or_eq_true, filled, varied]

/-- A title of the grammar is taken over; any other is faulty. -/
theorem withTitle_cases (template : Template) (title : Fields)
    : (HasTitle title
        ∧ Header.withTitle template title = .titled template (.ofFields title))
      ∨ (¬ HasTitle title ∧ ∃ fault, Header.withTitle template title = .faulty fault) := by
  cases tag : (field? title "tag").bind string? with
  | none =>
      refine Or.inr ⟨fun has => ?_, .titleTagMissing, by simp only [Header.withTitle, tag]⟩
      simp [has.1, string?] at tag
  | some name =>
      obtain ⟨value, found, isName⟩ := Option.bind_eq_some_iff.mp tag
      obtain rfl : value = .string name := by cases value <;> simp_all [string?]
      by_cases plain : name = "plain_text"
      · subst plain
        by_cases populated : (LocalizedText.ofFields title).isPopulated = true
        · refine Or.inl ⟨⟨found, isPopulated_iff.mp populated⟩, ?_⟩
          simp [Header.withTitle, tag, populated]
        · refine Or.inr ⟨fun has => populated (isPopulated_iff.mpr has.2), .titleEmpty, ?_⟩
          simp [Header.withTitle, tag, populated]
      · refine Or.inr ⟨fun has => plain ?_, .titleNotPlain, ?_⟩
        · exact Json.string.inj (Option.some.inj (found.symm.trans has.1))
        · simp [Header.withTitle, tag, plain]

end MessageCard
