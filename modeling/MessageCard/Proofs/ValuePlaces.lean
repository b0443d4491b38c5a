import MessageCard.Proofs.Offences
import MessageCard.Proofs.VisitedEntries

/-! The values that paths lead to.  Every value that a compilation looks at has a place of one of a
few kinds, and each kind of place has a contract: what a value there must be by itself, whatever
stands in it.
-/

namespace MessageCard

open Json

-----------------------------------------------------------------------------------------
-- Following paths
-----------------------------------------------------------------------------------------

/-- The value that the steps lead to. -/
def Json.follow? : Json → List Step → Option Json
  | value, [] => some value
  | .object fields, .field name :: rest => (field? fields name).bind (·.follow? rest)
  | .array items, .index position :: rest => items[position]?.bind (·.follow? rest)
  | _, _ => none

/-- The section of a document with a name. -/
def Document.section? (document : Document) : String → Option Json
  | "config" => document.config
  | "header" => document.header
  | "elements" => document.elements
  | _ => none

/-- The value of the document that the path leads to. -/
def Document.value? (document : Document) (path : Path) : Option Json :=
  match path.steps with
  | .field name :: rest => (document.section? name).bind (·.follow? rest)
  | _ => none

/-- Following steps and then others is following all of them, by induction on the first ones. -/
theorem Json.follow?_append (value : Json) (steps others : List Step)
    : value.follow? (steps ++ others) = (value.follow? steps).bind (·.follow? others) := by
  induction steps generalizing value with
  | nil => rfl
  | cons step rest ih =>
      cases step with
      | field name =>
          cases value with
          | object fields =>
              simp only [List.cons_append, follow?, Option.bind_assoc, ih]
          | _ => rfl
      | index position =>
          cases value with
          | array items =>
              simp only [List.cons_append, follow?, Option.bind_assoc, ih]
          | _ => rfl

/-- What is found in a section of an object is found in the object. -/
theorem Document.follow?_of_value {fields : Fields} {sourceId : Nat} {path : Path}
    {value : Json} (found : (Document.ofFields fields sourceId).value? path = some value)
    : (Json.object fields).follow? path.steps = some value := by
  rcases path with ⟨steps⟩
  rcases steps with _ | ⟨⟨name⟩ | position, rest⟩
  · cases found
  · obtain ⟨part, listed, below⟩ := Option.bind_eq_some_iff.mp found
    have present : field? fields name = some part := by
      simp only [section?, ofFields, presentField?] at listed
      split at listed
      · exact (Option.filter_eq_some_iff.mp listed).1
      · exact (Option.filter_eq_some_iff.mp listed).1
      · exact (Option.filter_eq_some_iff.mp listed).1
      · cases listed
    rw [follow?, present]
    exact below
  · cases found

section

variable {document : Document} {path : Path}

theorem Document.value?_append {value : Json} (found : document.value? path = some value)
    (steps : List Step)
    : document.value? { steps := path.steps ++ steps } = value.follow? steps := by
  rcases path with ⟨_ | ⟨⟨name⟩ | position, rest⟩⟩
  · cases found
  · obtain ⟨part, listed, below⟩ := Option.bind_eq_some_iff.mp found
    simp only [value?, List.cons_append, listed, Option.bind_some, follow?_append, below]
  · cases found

theorem Document.value?_field {fields : Fields} {name : String} {value : Json}
    (found : document.value? path = some (.object fields))
    (given : field? fields name = some value)
    : document.value? (path.field name) = some value := by
  rw [Path.field, value?_append found]
  simp only [follow?, given, Option.bind_some]

theorem Document.value?_item {items : List Json} {position : Nat} {value : Json}
    (found : document.value? path = some (.array items))
    (listed : items[position]? = some value)
    : document.value? (path.item position) = some value := by
  rw [Path.item, value?_append found]
  simp only [follow?, listed, Option.bind_some]

theorem Document.value?_body {value : Json} (given : document.elements = some value)
    : document.value? Path.body = some value := by
  simp only [value?, Path.body, Path.top, section?, given, Option.bind_some, follow?]

theorem Document.value?_header {value : Json} (given : document.header = some value)
    : document.value? Path.header = some value := by
  simp only [value?, Path.header, Path.top, section?, given, Option.bind_some, follow?]

end

-----------------------------------------------------------------------------------------
-- Kinds of places
-----------------------------------------------------------------------------------------

/-- The kinds of places that a card has for values. -/
inductive Place
  | header
  | body
  | element
  | child
  | column
  | columnElements
deriving DecidableEq

/-- The path is that of an entry: of the body, or of a column of a set that is one. -/
inductive Path.IsEntry : Path → Prop
  | top (position : Nat) : IsEntry (Path.body.item position)
  | nested {path : Path} (set : path.IsEntry) (column position : Nat)
    : IsEntry ((path.columnElements column).item position)

/-- The path leads to a place of the kind. -/
inductive Path.At : Place → Path → Prop
  | header : At .header Path.header
  | body : At .body Path.body
  | element {path : Path} (entry : path.IsEntry) : At .element path
  | child {path : Path} (entry : path.IsEntry) (position : Nat)
    : At .child ((path.field "elements").item position)
  | column {path : Path} (entry : path.IsEntry) (position : Nat)
    : At .column ((path.field "columns").item position)
  | columnElements {path : Path} (entry : path.IsEntry) (position : Nat)
    : At .columnElements (path.columnElements position)

/-- The kind of the place that steps lead to, told from the last ones, which come first. -/
def Place.ofLast : List Step → Option Place
  | [.field "header"] => some .header
  | [.field "elements"] => some .body
  | .index _ :: .field "columns" :: _ => some .column
  | .field "elements" :: .index _ :: _ => some .columnElements
  | .index _ :: .field "elements" :: .index _ :: .field "elements" :: _ => some .child
  | .index _ :: .field "elements" :: _ => some .element
  | _ => none

/-- The last steps to an entry, which come first: its index in a body or in a column. -/
theorem Path.IsEntry.last {path : Path} (entry : path.IsEntry)
    : ∃ position rest,
        path.steps.reverse = .index position :: .field "elements" :: rest
        ∧ (rest = [] ∨ ∃ column others, rest = .index column :: .field "columns" :: others) := by
  cases entry with
  | top position => exact ⟨position, [], rfl, Or.inl rfl⟩
  | @nested path set column position =>
      refine ⟨position, .index column :: .field "columns" :: path.steps.reverse, ?_, ?_⟩
      · simp [columnElements, item, field]
      · exact Or.inr ⟨column, _, rfl⟩

/-- The path tells the kind of its place, by cases on the kind. -/
theorem Path.At.ofLast {path : Path} {place : Place} (placed : path.At place)
    : Place.ofLast path.steps.reverse = some place := by
  cases placed with
  | header => rfl
  | body => rfl
  | element entry =>
      obtain ⟨position, rest, last, rfl | ⟨column, others, rfl⟩⟩ := entry.last
      · rw [last]
        rfl
      · rw [last]
        rfl
  | child entry position =>
      obtain ⟨index, rest, last, _⟩ := entry.last
      simp [item, field, last, Place.ofLast]
  | column entry position => simp [item, field, Place.ofLast]
  | columnElements entry position => simp [Path.columnElements, item, field, Place.ofLast]

theorem Path.At.unique {path : Path} {first second : Place} (left : path.At first)
    (right : path.At second)
    : first = second :=
  Option.some.inj (left.ofLast.symm.trans right.ofLast)

/-- The number of columns that the path goes through. -/
def Path.columnSteps (path : Path) : Nat :=
  path.steps.count (.field "columns")

@[simp]
theorem Path.columnSteps_item (path : Path) (position : Nat)
    : (path.item position).columnSteps = path.columnSteps := by
  simp [columnSteps, item]

@[simp]
theorem Path.columnSteps_columnElements (path : Path) (position : Nat)
    : (path.columnElements position).columnSteps = path.columnSteps + 1 := by
  simp [columnSteps, columnElements, item, field]

-----------------------------------------------------------------------------------------
-- Contracts
-----------------------------------------------------------------------------------------

/-- The fields of an element are what its tag asks for. -/
def ElementTag.MetBy (fields : Fields) : ElementTag → Prop
  | .div => HasPlainText fields
  | .img => HasImage fields ∧ HasWidth fields
  | .note => ∃ children, field? fields "elements" = some (.array children) ∧ children ≠ []
  | .columnSet => ∃ columns, field? fields "columns" = some (.array columns) ∧ columns ≠ []
  | .hr => True
  | .actions => True
  | .markdown => True

/-- The value by itself is what its kind of place asks for.  An unknown tag is no breach of the
contract: it has a report of its own.
-/
def Place.Contract (value : Json) : Place → Prop
  | header => value.IsHeader
  | body => ∃ entries, value = .array entries
  | element =>
      ∃ fields tag,
        value = .object fields
        ∧ truthyField? fields "tag" = some tag
        ∧ ∀ known : ElementTag, tag = .string known.name → known.MetBy fields
  | child =>
      ∃ fields,
        value = .object fields
        ∧ ∀ known : ChildTag,
            field? fields "tag" = some (.string known.name) → value.IsChild
  | column => ∃ entries, value.columnEntries? = some entries
  | columnElements => True

/-- An element whose tag is a name meets its contract exactly when its fields meet the tag. -/
theorem Place.element_contract_iff {fields : Fields} {tag : ElementTag}
    (named : field? fields "tag" = some (.string tag.name))
    : element.Contract (.object fields) ↔ tag.MetBy fields := by
  have truthy : (Json.string tag.name).isTruthy = true := by cases tag <;> rfl
  have given := truthyField?_eq_some_iff.mpr ⟨named, truthy⟩
  constructor
  · rintro ⟨_, value, same, found, met⟩
    cases same
    exact met tag (Option.some.inj (found.symm.trans given))
  · intro met
    refine ⟨fields, _, rfl, given, fun known same => ?_⟩
    have names : tag.name = known.name := Json.string.inj same
    have both := ElementTag.ofName?_name tag
    rw [names, ElementTag.ofName?_name] at both
    exact Option.some.inj both ▸ met

/-- An element of the grammar meets its contract, by cases on its form. -/
theorem Json.IsElement.contract {limit level : Nat} {value : Json}
    (form : value.IsElement limit level)
    : Place.element.Contract value := by
  cases form with
  | deferred tag deferred named =>
      rw [Place.element_contract_iff named]
      cases tag with
      | actions => trivial
      | markdown => trivial
      | _ => cases deferred
  | div named text => exact (Place.element_contract_iff named).mpr text
  | hr named => exact (Place.element_contract_iff named).mpr trivial
  | img named image width => exact (Place.element_contract_iff named).mpr ⟨image, width⟩
  | note named listed filled _ =>
      exact (Place.element_contract_iff named).mpr ⟨_, listed, filled⟩
  | columnSet named listed filled _ _ _ =>
      exact (Place.element_contract_iff named).mpr ⟨_, listed, filled⟩

theorem Json.IsChild.contract {value : Json} (form : value.IsChild)
    : Place.child.Contract value := by
  cases form with
  | text tag textual named content => exact ⟨_, rfl, fun _ _ => .text tag textual named content⟩
  | image named image => exact ⟨_, rfl, fun _ _ => .image named image⟩

theorem Json.StopsNote.not_contract {child : Json} (stops : child.StopsNote)
    : ¬ Place.child.Contract child := by
  rintro ⟨fields, rfl, met⟩
  rcases stops with shape | ⟨_, tag, same, named, lacks⟩
  · cases shape
  · cases same
    exact lacks (met tag named)

end MessageCard
