import MessageCard.Card.Section
import MessageCard.Proofs.FieldReading

/-! How cards are read from documents, as lemmas about field lookup.  Elements and columns are
read structurally; here each reading is stated through the fields that it looks at, so that
proofs about documents need no induction over lists of fields.
-/

namespace MessageCard

-----------------------------------------------------------------------------------------
-- Elements and columns through their fields
-----------------------------------------------------------------------------------------

/-- Elements are read one by one, by list induction. -/
theorem Element.listOfJson_eq_map (items : List Json)
    : Element.listOfJson items = items.map Element.ofJson := by
  induction items with
  | nil => simp [Element.listOfJson]
  | cons item rest ih => simp [Element.listOfJson, ih]

theorem Column.listOfJson_eq_map (items : List Json)
    : Column.listOfJson items = items.map Column.ofJson := by
  induction items with
  | nil => simp [Column.listOfJson]
  | cons item rest ih => simp [Column.listOfJson, ih]

/-- The columns of a set are read from its field of that name, by induction over the fields. -/
theorem columnsField_eq (fields : Fields)
    : columnsField fields
      = ((Json.field? fields "columns").bind Json.array?).map (·.map Column.ofJson) := by
  induction fields with
  | nil => simp [columnsField, Json.field?]
  | cons first rest ih =>
      rcases first with ⟨name, value⟩
      by_cases same : name = "columns"
      · subst same
        cases value <;>
          simp [columnsField, Json.field?, Json.array?, Column.listOfJson_eq_map]
      · have other : ("columns" == name) = false := by simpa using Ne.symm same
        have skipped : columnsField ((name, value) :: rest) = columnsField rest := by
          cases value <;> simp [columnsField, same]
        simpa [skipped, Json.field?, List.lookup_cons, other] using ih

/-- A field of another name than that of the elements is skipped, by cases on its value. -/
theorem elementsField_skip {name : String} (value : Json) (rest : Fields)
    (other : name ≠ "elements")
    : elementsField ((name, value) :: rest) = elementsField rest := by
  cases value <;> simp [elementsField, other]

/-- A column of the right shape is read with its entries, by induction over its fields. -/
theorem Column.ofJson_of_entries {column : Json} {entries : List Json}
    (shaped : column.columnEntries? = some entries)
    : Column.ofJson column = .elements (entries.map Element.ofJson) := by
  cases column with
  | object fields =>
      simp only [Column.ofJson]
      induction fields with
      | nil =>
          obtain rfl : [] = entries := by simpa [Json.columnEntries?, Json.field?] using shaped
          simp [elementsField]
      | cons first rest ih =>
          rcases first with ⟨name, value⟩
          by_cases same : name = "elements"
          · subst same
            cases value <;>
              simp_all [elementsField, Json.columnEntries?, Json.field?,
                Element.listOfJson_eq_map]
          · have other : ("elements" == name) = false := by simpa using Ne.symm same
            simp only [Json.columnEntries?, Json.field?, List.lookup_cons, other] at shaped ih
            simpa [elementsField_skip value rest same] using ih shaped
  | _ => simp [Json.columnEntries?] at shaped

/-- A column of any other shape is read as faulty, by induction over its fields. -/
theorem Column.ofJson_of_misshaped {column : Json} (misshaped : column.columnEntries? = none)
    : ∃ fault, Column.ofJson column = .faulty fault := by
  cases column with
  | object fields =>
      simp only [Column.ofJson]
      induction fields with
      | nil => simp [Json.columnEntries?, Json.field?] at misshaped
      | cons first rest ih =>
          rcases first with ⟨name, value⟩
          by_cases same : name = "elements"
          · subst same
            cases value <;> simp_all [elementsField, Json.columnEntries?, Json.field?]
          · have other : ("elements" == name) = false := by simpa using Ne.symm same
            simp only [Json.columnEntries?, Json.field?, List.lookup_cons, other]
              at misshaped ih
            simpa [elementsField_skip value rest same] using ih misshaped
  | _ => exact ⟨_, rfl⟩

/-- Reads the fields of an element whose tag is known. -/
def Element.ofTagged (fields : Fields) : ElementTag → Element
  | .div => .divOfFields fields
  | .hr => .hr
  | .img => .imgOfFields fields
  | .note => .noteOfFields fields
  | .columnSet =>
      match Json.arrayField? fields "columns" with
      | some columns => .columnSet (columns.map Column.ofJson)
      | none => .faulty .columnsMissing
  | .actions => .deferred .actions
  | .markdown => .deferred .markdown

/-- Whether the element is neither deferred nor a set. -/
def Element.isSingle : Element → Bool
  | .deferred _ => false
  | .columnSet _ => false
  | _ => true

/-- Elements of the other tags are single, also where a fault is found; cases on the tag. -/
theorem Element.ofTagged_isSingle (fields : Fields) {tag : ElementTag}
    (undeferred : tag.isDeferred = false) (notSet : tag ≠ .columnSet)
    : (Element.ofTagged fields tag).isSingle = true := by
  cases tag with
  | actions => cases undeferred
  | markdown => cases undeferred
  | columnSet => exact (notSet rfl).elim
  | hr => rfl
  | div =>
      simp only [ofTagged, divOfFields]
      repeat' split
      all_goals rfl
  | img =>
      simp only [ofTagged, imgOfFields]
      repeat' split
      all_goals rfl
  | note =>
      simp only [ofTagged, noteOfFields]
      split <;> rfl

/-- Only the deferred tags are read as deferred, each as itself. -/
theorem Element.ofTagged_deferred {fields : Fields} {tag other : ElementTag}
    (same : Element.ofTagged fields tag = .deferred other)
    : tag.isDeferred = true ∧ other = tag := by
  cases deferred : tag.isDeferred with
  | true =>
      refine ⟨rfl, ?_⟩
      cases tag with
      | actions => exact (Element.deferred.inj same).symm
      | markdown => exact (Element.deferred.inj same).symm
      | _ => cases deferred
  | false =>
      by_cases isSet : tag = .columnSet
      · subst isSet
        simp only [ofTagged] at same
        split at same <;> cases same
      · have single := ofTagged_isSingle fields deferred isSet
        rw [same] at single
        cases single

/-- Only the tag of sets is read as a set, from its columns. -/
theorem Element.ofTagged_columnSet {fields : Fields} {tag : ElementTag}
    {columns : List Column} (same : Element.ofTagged fields tag = .columnSet columns)
    : tag = .columnSet
      ∧ ∃ items,
          Json.arrayField? fields "columns" = some items
          ∧ columns = items.map Column.ofJson := by
  by_cases isSet : tag = .columnSet
  · subst isSet
    simp only [ofTagged] at same
    split at same
    · rename_i items found
      exact ⟨rfl, items, found, (Element.columnSet.inj same).symm⟩
    · cases same
  · cases deferred : tag.isDeferred with
    | false =>
        have single := ofTagged_isSingle fields deferred isSet
        rw [same] at single
        cases single
    | true => cases tag <;> simp [ElementTag.isDeferred, ofTagged] at deferred same

/-- The columns that are read make a set when there is one at least. -/
theorem Element.columnSetOf_columnsField (fields : Fields)
    : Element.columnSetOf (columnsField fields) = Element.ofTagged fields .columnSet := by
  rw [columnsField_eq]
  rcases found : Json.field? fields "columns" with _ | value
  · simp [columnSetOf, ofTagged, Json.arrayField?, found]
  · cases value with
    | array items =>
        cases items <;>
          simp [columnSetOf, ofTagged, Json.arrayField?, Json.nonEmptyArray?, Json.array?, found,
            Option.filter]
    | _ =>
        simp [columnSetOf, ofTagged, Json.arrayField?, Json.nonEmptyArray?, Json.array?, found]

/-- The ways to read an entry: it lacks what every element has, its tag is none of the names, or
it is read by its tag.
-/
inductive Element.Reading (entry : Json) : Prop
  | lacking (fault : Fault)
    (untagged
      : ∀ fields, entry = .object fields → Json.truthyField? fields "tag" = none)
    (read : Element.ofJson entry = .faulty fault)
  | unknown (fields : Fields) (value : Json) (shape : entry = .object fields)
    (given : Json.truthyField? fields "tag" = some value)
    (unnamed : ∀ tag : ElementTag, value ≠ .string tag.name)
    (read : Element.ofJson entry = .unknown (tagText (some value)))
  | tagged (fields : Fields) (tag : ElementTag) (shape : entry = .object fields)
    (named : Json.field? fields "tag" = some (.string tag.name))
    (read : Element.ofJson entry = Element.ofTagged fields tag)

/-- An object whose tag is a name is read by that tag, by cases on the tag. -/
theorem Element.ofJson_of_tag {fields : Fields} {tag : ElementTag}
    (named : Json.field? fields "tag" = some (.string tag.name))
    : Element.ofJson (.object fields) = Element.ofTagged fields tag := by
  have truthy : (Json.string tag.name).isTruthy = true := by cases tag <;> rfl
  simp only [Element.ofJson, named, Option.any_some, truthy, Bool.not_true, Option.bind_some,
    Json.string?, ElementTag.ofName?_name]
  cases tag with
  | columnSet => exact columnSetOf_columnsField fields
  | _ => rfl

/-- Every entry is read in one of these ways; cases on its tag. -/
theorem Element.reading (entry : Json) : Element.Reading entry := by
  cases entry with
  | object fields =>
      cases given : Json.truthyField? fields "tag" with
      | none =>
          refine .lacking .tagMissing (fun _ same => by cases same; exact given) ?_
          have untruthy : (Json.field? fields "tag").any Json.isTruthy = false := by
            cases found : Json.field? fields "tag" with
            | none => rfl
            | some value => simpa [Json.truthyField?, found] using given
          simp [Element.ofJson, untruthy]
      | some value =>
          obtain ⟨found, truthy⟩ := Json.truthyField?_eq_some_iff.mp given
          by_cases named : ∃ tag : ElementTag, value = .string tag.name
          · obtain ⟨tag, rfl⟩ := named
            exact .tagged fields tag rfl found (ofJson_of_tag found)
          · have unnamed : ∀ tag : ElementTag, value ≠ .string tag.name :=
              fun tag same => named ⟨tag, same⟩
            refine .unknown fields value rfl given unnamed ?_
            -- a string that is found among the names would be one of them
            have nameless : (value.string?).bind ElementTag.ofName? = none := by
              cases value with
              | string text =>
                  cases known : ElementTag.ofName? text with
                  | none => simpa [Json.string?] using known
                  | some tag =>
                      exact (unnamed tag (congrArg Json.string (byName?_name known).symm)).elim
              | _ => rfl
            simp only [Element.ofJson, found, Option.any_some, truthy, Bool.not_true,
              Option.bind_some, nameless]
            rfl
  | null => exact .lacking _ (fun _ same => by cases same) rfl
  | bool value => exact .lacking _ (fun _ same => by cases same) rfl
  | number value => exact .lacking _ (fun _ same => by cases same) rfl
  | string value => exact .lacking _ (fun _ same => by cases same) rfl
  | array items => exact .lacking _ (fun _ same => by cases same) rfl

/-- An entry that is read as a set has the tag of sets and an array of columns, by cases on how it
is read.
-/
theorem Element.ofJson_columnSet {entry : Json} {columns : List Column}
    (same : Element.ofJson entry = .columnSet columns)
    : ∃ fields items,
        entry = .object fields
        ∧ Json.field? fields "tag" = some (.string ElementTag.columnSet.name)
        ∧ Json.arrayField? fields "columns" = some items
        ∧ columns = items.map Column.ofJson := by
  rcases Element.reading entry with
    ⟨_, _, read⟩ | ⟨_, _, _, _, _, read⟩ | ⟨fields, tag, shape, named, read⟩
  · cases read.symm.trans same
  · cases read.symm.trans same
  · obtain ⟨rfl, items, found, columns⟩ := Element.ofTagged_columnSet (read.symm.trans same)
    exact ⟨fields, items, shape, named, found, columns⟩

-----------------------------------------------------------------------------------------
-- Children of notes through their fields
-----------------------------------------------------------------------------------------

/-- Reads the fields of a child whose tag is known. -/
def Child.ofTagged (fields : Fields) : ChildTag → Child
  | .plainText => .content .plainText fields .plain
  | .larkMd => .content .larkMd fields .markdown
  | .img =>
      match Image.ofFields fields with
      | .error fault => .faulty fault
      | .ok shown =>
          .image shown (((Json.field? fields "preview").bind Json.bool?).getD true)

theorem Child.ofJson_of_tag {fields : Fields} {tag : ChildTag}
    (named : Json.field? fields "tag" = some (.string tag.name))
    : Child.ofJson (.object fields) = Child.ofTagged fields tag := by
  simp only [Child.ofJson, Json.object?, childTag_found_iff.mpr named]
  cases tag <;> rfl

/-- The ways to read a child of a note: it is no object, its tag is none of the names, or it is
read by its tag.
-/
inductive Child.Reading (child : Json) : Prop
  | notObject (shape : child.object? = none)
    (read : Child.ofJson child = .faulty .noteChildNotObject)
  | unknown (fields : Fields) (shape : child = .object fields)
    (unnamed
      : ∀ tag : ChildTag, Json.field? fields "tag" ≠ some (.string tag.name))
    (read : Child.ofJson child = .unknown (tagText (Json.field? fields "tag")))
  | tagged (fields : Fields) (tag : ChildTag) (shape : child = .object fields)
    (named : Json.field? fields "tag" = some (.string tag.name))
    (read : Child.ofJson child = Child.ofTagged fields tag)

/-- Every child is read in one of these ways; cases on its tag. -/
theorem Child.reading (child : Json) : Child.Reading child := by
  cases child with
  | object fields =>
      cases found : ((Json.field? fields "tag").bind Json.string?).bind ChildTag.ofName? with
      | none =>
          refine .unknown fields rfl (fun tag named => ?_) ?_
          · simp [childTag_found_iff.mpr named] at found
          · simp only [Child.ofJson, Json.object?, found]
      | some tag =>
          have named := childTag_found_iff.mp found
          exact .tagged fields tag rfl named (ofJson_of_tag named)
  | null => exact .notObject rfl rfl
  | bool value => exact .notObject rfl rfl
  | number value => exact .notObject rfl rfl
  | string value => exact .notObject rfl rfl
  | array items => exact .notObject rfl rfl

end MessageCard
