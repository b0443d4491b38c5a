import Mathlib.Data.List.Forall2
import MessageCard.Proofs.CardReading

/-! What is read of a document.  Every value of a document is read as a part of a card, and a part
says which fields of an object are read and as what parts.  Two values that are akin in the fields
read, where `null` stands for a missing field, are read as the same parts of a card, but for the
wording of unknown tags.
-/

namespace MessageCard

open Json Document

-----------------------------------------------------------------------------------------
-- The fields that are read
-----------------------------------------------------------------------------------------

/-- What a value of a document is read as; most values are read as they stand. -/
inductive Part
  | document
  | header
  | title
  | elements
  | element
  | text
  | children
  | child
  | alt
  | columns
  | column
  | plain
deriving DecidableEq

/-- The fields of an element that are read besides its tag. -/
def ElementTag.reads : ElementTag → List (String × Part)
  | div => [("text", .text)]
  | img =>
      [("img_key", .plain), ("alt", .alt), ("compact_width", .plain), ("custom_width", .plain)]
  | note => [("elements", .children)]
  | columnSet => [("columns", .columns)]
  | hr => []
  | actions => []
  | markdown => []

/-- The fields of a child of a note that are read besides its tag. -/
def ChildTag.reads : ChildTag → List (String × Part)
  | plainText => [("content", .plain)]
  | larkMd => [("content", .plain)]
  | img => [("img_key", .plain), ("alt", .alt), ("preview", .plain)]

/-- The name that the tag of an object is a string of, if it is one. -/
def Json.tagName? (fields : Fields) : Option String :=
  (field? fields "tag").bind string?

namespace Part

/-- The fields that are read of an object, and what each is read as; none if the part is read as
it stands, or is a list.
-/
def reads? (fields : Fields) : Part → Option (List (String × Part))
  | document => some [("header", .header), ("elements", .elements)]
  | header => some [("title", .title), ("template", .plain)]
  | title => some [("tag", .plain), ("content", .plain), ("i18n", .plain)]
  | element =>
      some (("tag", .plain)
        :: (((tagName? fields).bind ElementTag.ofName?).map ElementTag.reads).getD [])
  | text => some [("tag", .plain), ("content", .plain)]
  | child =>
      some (("tag", .plain)
        :: (((tagName? fields).bind ChildTag.ofName?).map ChildTag.reads).getD [])
  | alt => some [("content", .plain), ("i18n", .plain)]
  | column => some [("elements", .elements)]
  | elements => none
  | children => none
  | columns => none
  | plain => none

/-- What the items of a list are read as. -/
def items? : Part → Option Part
  | elements => some element
  | children => some child
  | columns => some column
  | _ => none

end Part

/-- Values that are akin are read alike: they are of one kind, and akin in the fields and the items
that are read, where a field that is `null` is a missing one.
-/
structure Kinship (Akin : Part → Json → Json → Prop) : Prop where
  scalar
    : ∀ {part : Part} {value other : Json},
        Akin part value other
        → value.array? = none
        → value.object? = none
        → other = value
  array
    : ∀ {part : Part} {items : List Json} {other : Json},
        Akin part (.array items) other
        → ∃ others,
            other = .array others
            ∧ ∀ inner, part.items? = some inner → List.Forall₂ (Akin inner) items others
  object
    : ∀ {part : Part} {fields : Fields} {other : Json},
        Akin part (.object fields) other
        → ∃ others,
            other = .object others
            ∧ ∀ names,
                part.reads? fields = some names
                → ∀ name inner,
                    (name, inner) ∈ names
                    → Option.Rel (Akin inner) (presentField? fields name)
                        (presentField? others name)

-----------------------------------------------------------------------------------------
-- Present fields
-----------------------------------------------------------------------------------------

section

variable {fields : Fields} {name : String}

theorem presentField?_eq_some_iff {value : Json}
    : presentField? fields name = some value ↔ field? fields name = some value ∧ value ≠ .null := by
  rw [presentField?, Option.filter_eq_some_iff]
  cases value <;> simp [isNull]

/-- What finds nothing in `null` does not tell it from a missing field. -/
theorem field?_bind_eq {α : Type} (find : Json → Option α) (absent : find .null = none)
    : (field? fields name).bind find = (presentField? fields name).bind find := by
  rw [presentField?]
  cases field? fields name with
  | none => rfl
  | some value =>
      cases value with
      | null => exact absent
      | _ => rfl

theorem truthyField?_eq
    : truthyField? fields name = (presentField? fields name).filter isTruthy := by
  rw [truthyField?, presentField?]
  cases field? fields name with
  | none => rfl
  | some value => cases value <;> rfl

end

-----------------------------------------------------------------------------------------
-- Akin values
-----------------------------------------------------------------------------------------

section

variable {Akin : Part → Json → Json → Prop} {part inner : Part} {value other : Json}
  {fields others : Fields} {name : String}

/-- What looks into no list and no object finds the same in akin values, by cases on the value. -/
theorem Kinship.eq_of_shallow (kin : Kinship Akin) (akin : Akin part value other) {α : Type}
    (find : Json → α) (lists : ∀ items more, find (.array items) = find (.array more))
    (objects : ∀ fields more, find (.object fields) = find (.object more))
    : find other = find value := by
  cases value with
  | array items =>
      obtain ⟨more, rfl, _⟩ := kin.array akin
      exact lists more items
  | object fields =>
      obtain ⟨more, rfl, _⟩ := kin.object akin
      exact objects more fields
  | _ => rw [kin.scalar akin rfl rfl]

theorem Kinship.bind_eq (kin : Kinship Akin) {field again : Option Json}
    (akin : Option.Rel (Akin inner) field again) {α : Type} {find : Json → Option α}
    (lists : ∀ items more, find (.array items) = find (.array more))
    (objects : ∀ fields more, find (.object fields) = find (.object more))
    : again.bind find = field.bind find := by
  cases akin with
  | none => rfl
  | some same => exact kin.eq_of_shallow same find lists objects

/-- A list in a field is matched by a list of items akin to its own. -/
theorem Kinship.arrayField_cases (kin : Kinship Akin) {listed : Part}
    (akin : Option.Rel (Akin listed) (presentField? fields name) (presentField? others name))
    (items : listed.items? = some inner)
    : (arrayField? fields name = none ∧ arrayField? others name = none)
      ∨ ∃ found more,
          arrayField? fields name = some found
          ∧ arrayField? others name = some more
          ∧ List.Forall₂ (Akin inner) found more := by
  simp only [arrayField?, field?_bind_eq nonEmptyArray? rfl]
  generalize presentField? fields name = field, presentField? others name = again at akin ⊢
  cases akin with
  | none => exact Or.inl ⟨rfl, rfl⟩
  | @some value other same =>
      cases value with
      | array found =>
          obtain ⟨more, rfl, each⟩ := kin.array same
          have each := each inner items
          cases each with
          | nil => exact Or.inl ⟨rfl, rfl⟩
          | cons first rest => exact Or.inr ⟨_, _, rfl, rfl, .cons first rest⟩
      | object fields =>
          obtain ⟨more, rfl, _⟩ := kin.object same
          exact Or.inl ⟨rfl, rfl⟩
      | _ =>
          rw [kin.scalar same rfl rfl]
          exact Or.inl ⟨rfl, rfl⟩

/-- An object in a field is matched by an object akin to it. -/
theorem Kinship.objectField_cases (kin : Kinship Akin)
    (akin : Option.Rel (Akin inner) (presentField? fields name) (presentField? others name))
    : (objectField? fields name = none ∧ objectField? others name = none)
      ∨ ∃ found more,
          objectField? fields name = some found
          ∧ objectField? others name = some more
          ∧ Akin inner (.object found) (.object more) := by
  simp only [objectField?, field?_bind_eq Json.object? rfl]
  generalize presentField? fields name = field, presentField? others name = again at akin ⊢
  cases akin with
  | none => exact Or.inl ⟨rfl, rfl⟩
  | @some value other same =>
      cases value with
      | object found =>
          obtain ⟨more, rfl, _⟩ := kin.object same
          exact Or.inr ⟨found, more, rfl, rfl, same⟩
      | array items =>
          obtain ⟨more, rfl, _⟩ := kin.array same
          exact Or.inl ⟨rfl, rfl⟩
      | _ =>
          rw [kin.scalar same rfl rfl]
          exact Or.inl ⟨rfl, rfl⟩

/-- A field that counts as given is matched by a value akin to it that does so too. -/
theorem Kinship.truthyField_cases (kin : Kinship Akin)
    (akin : Option.Rel (Akin inner) (presentField? fields name) (presentField? others name))
    : (truthyField? fields name = none ∧ truthyField? others name = none)
      ∨ ∃ found more,
          truthyField? fields name = some found
          ∧ truthyField? others name = some more
          ∧ Akin inner found more := by
  simp only [truthyField?_eq]
  generalize presentField? fields name = field, presentField? others name = again at akin ⊢
  cases akin with
  | none => exact Or.inl ⟨rfl, rfl⟩
  | @some value other same =>
      have truthy : other.isTruthy = value.isTruthy :=
        kin.eq_of_shallow same isTruthy (fun _ _ => rfl) (fun _ _ => rfl)
      cases given : value.isTruthy with
      | false => simp [Option.filter, truthy, given]
      | true => exact Or.inr ⟨value, other, by simp [given], by simp [truthy, given], same⟩

theorem Kinship.stringField_eq (kin : Kinship Akin)
    (akin : Option.Rel (Akin inner) (presentField? fields name) (presentField? others name))
    : stringField? others name = stringField? fields name := by
  simp only [stringField?, field?_bind_eq nonEmptyString? rfl]
  exact kin.bind_eq akin (fun _ _ => rfl) (fun _ _ => rfl)

theorem Kinship.string_eq (kin : Kinship Akin)
    (akin : Option.Rel (Akin inner) (presentField? fields name) (presentField? others name))
    : (field? others name).bind string? = (field? fields name).bind string? := by
  simp only [field?_bind_eq string? rfl]
  exact kin.bind_eq akin (fun _ _ => rfl) (fun _ _ => rfl)

theorem Kinship.bool_eq (kin : Kinship Akin)
    (akin : Option.Rel (Akin inner) (presentField? fields name) (presentField? others name))
    : (field? others name).bind bool? = (field? fields name).bind bool? := by
  simp only [field?_bind_eq bool? rfl]
  exact kin.bind_eq akin (fun _ _ => rfl) (fun _ _ => rfl)

end

end MessageCard
