import MessageCard.Card.Tag
import MessageCard.Json.Value

/-! How single fields are read from documents: lookup as an equation about the field, names of
vocabularies, and the entries of a column.  What is found in a value is smaller than the value, so
that proofs may recurse on it.
-/

namespace MessageCard

namespace Json

variable {fields : Fields} {name : String}

/-- A field that is found is smaller than its object, by induction over the fields. -/
theorem sizeOf_lt_of_field {value : Json} (found : field? fields name = some value)
    : sizeOf value < sizeOf (object fields) := by
  have listed : sizeOf value < sizeOf fields := by
    induction fields with
    | nil => simp [field?] at found
    | cons first rest ih =>
        rcases first with ⟨key, content⟩
        simp only [field?, List.lookup_cons] at found
        split at found
        · obtain rfl := Option.some.inj found
          simp only [List.cons.sizeOf_spec, Prod.mk.sizeOf_spec]
          omega
        · have := ih found
          simp only [List.cons.sizeOf_spec]
          omega
  simp only [object.sizeOf_spec]
  omega

/-- The items of an array in a field are smaller than the object. -/
theorem sizeOf_lt_of_items {items : List Json} (found : field? fields name = some (array items))
    : sizeOf items < sizeOf (object fields) := by
  have field := sizeOf_lt_of_field found
  simp only [array.sizeOf_spec] at field
  omega

theorem sizeOf_lt_of_item {items : List Json} {item : Json}
    (found : field? fields name = some (array items)) (member : item ∈ items)
    : sizeOf item < sizeOf (object fields) :=
  Nat.lt_trans (List.sizeOf_lt_of_mem member) (sizeOf_lt_of_items found)

/-- A text field is a string that is not empty. -/
theorem stringField?_eq_some_iff {text : String}
    : stringField? fields name = some text
      ↔ field? fields name = some (string text) ∧ text ≠ "" := by
  rcases found : field? fields name with _ | value
  · simp [stringField?, found]
  · cases value <;> simp [stringField?, found, nonEmptyString?, string?, Option.filter]
    grind

/-- An array field is an array that has items. -/
theorem arrayField?_eq_some_iff {items : List Json}
    : arrayField? fields name = some items
      ↔ field? fields name = some (array items) ∧ items ≠ [] := by
  rcases found : field? fields name with _ | value
  · simp [arrayField?, found]
  · cases value <;> simp [arrayField?, found, nonEmptyArray?, array?, Option.filter]
    grind

theorem objectField?_eq_some_iff {content : Fields}
    : objectField? fields name = some content
      ↔ field? fields name = some (object content) := by
  rcases found : field? fields name with _ | value
  · simp [objectField?, found]
  · cases value <;> simp [objectField?, found, object?]

/-- A field counts as given when it is there and truthy. -/
theorem truthyField?_eq_some_iff {value : Json}
    : truthyField? fields name = some value
      ↔ field? fields name = some value ∧ value.isTruthy = true := by
  simp only [truthyField?, Option.filter_eq_some_iff]

/-- The entries of a column, if it has the shape of one: an object whose elements are absent,
`null` or an array.
-/
def columnEntries? : Json → Option (List Json)
  | object fields =>
      match field? fields "elements" with
      | none => some []
      | some null => some []
      | some (array entries) => some entries
      | some _ => none
  | _ => none

/-- The entries of a column are smaller than the column, also when there are none. -/
theorem sizeOf_lt_of_entries {column : Json} {entries : List Json}
    (shaped : column.columnEntries? = some entries)
    : sizeOf entries < sizeOf column := by
  cases column with
  | object fields =>
      -- a column without elements still has a size, if only that of an object
      have absent : sizeOf ([] : List Json) < sizeOf (object fields) := by
        cases fields <;> simp only [object.sizeOf_spec, List.nil.sizeOf_spec,
          List.cons.sizeOf_spec] <;> omega
      simp only [columnEntries?] at shaped
      split at shaped
      · rwa [← Option.some.inj shaped]
      · rwa [← Option.some.inj shaped]
      · rename_i found
        rw [← Option.some.inj shaped]
        exact sizeOf_lt_of_items found
      · cases shaped
  | _ => cases shaped

theorem sizeOf_lt_of_entry {column entry : Json} {entries : List Json}
    (shaped : column.columnEntries? = some entries) (member : entry ∈ entries)
    : sizeOf entry < sizeOf column :=
  Nat.lt_trans (List.sizeOf_lt_of_mem member) (sizeOf_lt_of_entries shaped)

/-- The entries of a column, none if it has not the shape of one. -/
def entriesOf (column : Json) : List Json :=
  column.columnEntries?.getD []

theorem sizeOf_lt_of_entriesOf {column entry : Json} (member : entry ∈ column.entriesOf)
    : sizeOf entry < sizeOf column := by
  cases shaped : column.columnEntries? with
  | none => simp [entriesOf, shaped] at member
  | some entries =>
      rw [entriesOf, shaped] at member
      exact sizeOf_lt_of_entry shaped member

end Json

-----------------------------------------------------------------------------------------
-- Names of tags
-----------------------------------------------------------------------------------------

/-- A name finds a member of a vocabulary only by the name of that member. -/
theorem byName?_name {α : Type} {members : List α} {name : α → String} {text : String}
    {member : α} (found : byName? members name text = some member)
    : name member = text := by
  simpa using List.find?_some found

theorem ElementTag.ofName?_name (tag : ElementTag) : ofName? tag.name = some tag := by
  cases tag <;> rfl

theorem ChildTag.ofName?_name (tag : ChildTag) : ofName? tag.name = some tag := by
  cases tag <;> rfl

theorem Template.ofName?_name (template : Template)
    : ofName? template.name = some template := by
  cases template <;> rfl

/-- A member of a vocabulary is read from a field exactly when the field is its name. -/
theorem member_found_iff {α : Type} {members : List α} {name : α → String}
    (known : ∀ member, byName? members name (name member) = some member) {fields : Fields}
    {key : String} {member : α}
    : ((Json.field? fields key).bind Json.string?).bind (byName? members name) = some member
      ↔ Json.field? fields key = some (.string (name member)) := by
  constructor
  · intro found
    obtain ⟨text, isText, isMember⟩ := Option.bind_eq_some_iff.mp found
    obtain ⟨value, listed, same⟩ := Option.bind_eq_some_iff.mp isText
    cases value with
    | string other =>
        obtain rfl := Option.some.inj same
        rw [listed, byName?_name isMember]
    | _ => simp [Json.string?] at same
  · intro named
    simp only [named, Option.bind_some, Json.string?, known]

theorem elementTag_found_iff {fields : Fields} {tag : ElementTag}
    : ((Json.field? fields "tag").bind Json.string?).bind ElementTag.ofName? = some tag
      ↔ Json.field? fields "tag" = some (.string tag.name) :=
  member_found_iff ElementTag.ofName?_name

theorem childTag_found_iff {fields : Fields} {tag : ChildTag}
    : ((Json.field? fields "tag").bind Json.string?).bind ChildTag.ofName? = some tag
      ↔ Json.field? fields "tag" = some (.string tag.name) :=
  member_found_iff ChildTag.ofName?_name

end MessageCard
