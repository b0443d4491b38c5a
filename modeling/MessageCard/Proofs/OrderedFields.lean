import Mathlib.Data.String.Basic
import MessageCard.Proofs.FieldReading
import MessageCard.Proofs.ReaderInvariants

/-! Objects as the reader leaves them.  A reader puts each field where its name belongs, so that
every object that is read, at whatever depth, has its fields in strict order of their names, and no
name twice.
-/

namespace MessageCard.Json

/-- The fields of every object in the value stand in strict order of their names. -/
inductive Ordered : Json → Prop
  | null : Ordered null
  | bool (value : Bool) : Ordered (bool value)
  | number (value : JsonNumber) : Ordered (number value)
  | string (value : String) : Ordered (string value)
  | array {items : List Json} (each : ∀ item ∈ items, Ordered item) : Ordered (array items)
  | object {fields : Fields} (names : fields.Pairwise fun field later => field.1 < later.1)
    (each : ∀ field ∈ fields, Ordered field.2)
    : Ordered (object fields)

variable {name : String} {value : Json} {fields : Fields}

-----------------------------------------------------------------------------------------
-- Fields in order
-----------------------------------------------------------------------------------------

theorem mem_insertField {field : String × Json} (member : field ∈ insertField name value fields)
    : field = (name, value) ∨ field ∈ fields := by
  induction fields with
  | nil => exact Or.inl (List.mem_singleton.mp member)
  | cons first rest ih =>
      rcases first with ⟨other, old⟩
      simp only [insertField] at member
      split at member
      · exact List.mem_cons.mp member
      · split at member
        · rcases List.mem_cons.mp member with new | later
          · exact Or.inl new
          · exact Or.inr (List.mem_cons_of_mem _ later)
        · rcases List.mem_cons.mp member with rfl | later
          · exact Or.inr List.mem_cons_self
          · rcases ih later with new | old
            · exact Or.inl new
            · exact Or.inr (List.mem_cons_of_mem _ old)

/-- A field is put where its name belongs: cases on how the name compares with the first. -/
theorem insertField_pairwise (names : fields.Pairwise fun field later => field.1 < later.1)
    : (insertField name value fields).Pairwise fun field later => field.1 < later.1 := by
  induction fields with
  | nil => exact List.pairwise_singleton _ _
  | cons first rest ih =>
      rcases first with ⟨other, old⟩
      obtain ⟨least, names⟩ := List.pairwise_cons.mp names
      simp only [insertField]
      split
      · rename_i before
        refine .cons ?_ (.cons least names)
        intro field member
        rcases List.mem_cons.mp member with rfl | later
        · exact before
        · exact lt_trans before (least field later)
      · split
        · rename_i same
          exact .cons (fun field later => same ▸ least field later) names
        · rename_i notBefore distinct
          have after : other < name :=
            lt_of_le_of_ne (not_lt.mp notBefore) (Ne.symm distinct)
          refine .cons ?_ (ih names)
          intro field member
          rcases mem_insertField member with rfl | later
          · exact after
          · exact least field later

theorem Ordered.insertField (ordered : Ordered (.object fields)) (new : Ordered value)
    : Ordered (.object (Json.insertField name value fields)) := by
  cases ordered with
  | object names each =>
      refine .object (insertField_pairwise names) ?_
      intro field member
      rcases mem_insertField member with rfl | old
      · exact new
      · exact each field old

theorem field?_cons {key : String}
    : field? ((name, value) :: fields) key = if key = name then some value else field? fields key := by
  by_cases same : key = name
  · rw [if_pos same, same, field?, List.lookup_cons_self]
  · have other : (key == name) = false := beq_false_of_ne same
    simp only [if_neg same, field?, List.lookup_cons, other]

/-- A field that was put among others is found under its name, and the others as before.  By
induction over them.
-/
theorem field?_insertField {key : String}
    : field? (Json.insertField name value fields) key
      = if key = name then some value else field? fields key := by
  induction fields with
  | nil => exact field?_cons
  | cons first rest ih =>
      rcases first with ⟨other, old⟩
      rw [Json.insertField]
      split
      · exact field?_cons
      · split
        · rename_i replaced
          simp only [field?_cons, ← replaced]
          split <;> rfl
        · rename_i distinct
          simp only [field?_cons, ih]
          split
          · rename_i same
            rw [if_neg (same ▸ Ne.symm distinct)]
          · rfl

theorem Ordered.names (ordered : Ordered (.object fields))
    : fields.Pairwise fun field later => field.1 < later.1 := by
  cases ordered with
  | object names each => exact names

theorem Ordered.field (ordered : Ordered (.object fields))
    (found : field? fields name = some value)
    : Ordered value := by
  cases ordered with
  | object names each =>
      obtain ⟨before, after, shape, _⟩ := List.lookup_eq_some_iff.mp found
      exact each (name, value) (by simp [shape])

-----------------------------------------------------------------------------------------
-- Values put in order
-----------------------------------------------------------------------------------------

mutual

/-- The value with the fields of every object put in order of their names.  Two values are equal
as values, whatever the order of their fields, when these are.
-/
def ordered : Json → Json
  | null => null
  | bool value => bool value
  | number value => number value
  | string value => string value
  | array items => array (orderedItems items)
  | object fields => object (orderedFields fields)

/-- The items, each put in order. -/
def orderedItems : List Json → List Json
  | [] => []
  | item :: rest => ordered item :: orderedItems rest

/-- The fields in order of their names, the first of each name, with values put in order. -/
def orderedFields : List (String × Json) → Fields
  | [] => []
  | (name, value) :: rest => insertField name (ordered value) (orderedFields rest)

end

mutual

/-- What is put in order is in order, by induction over the value. -/
theorem ordered_ordered (value : Json) : value.ordered.Ordered := by
  cases value with
  | null => exact .null
  | bool value => exact .bool value
  | number value => exact .number value
  | string value => exact .string value
  | array items =>
      rw [ordered]
      exact .array (orderedItems_ordered items)
  | object fields =>
      rw [ordered]
      exact orderedFields_ordered fields
termination_by sizeOf value

theorem orderedItems_ordered (items : List Json) : ∀ item ∈ orderedItems items, item.Ordered := by
  cases items with
  | nil => exact fun item member => nomatch member
  | cons first rest =>
      rw [orderedItems, List.forall_mem_cons]
      exact ⟨ordered_ordered first, orderedItems_ordered rest⟩
termination_by sizeOf items

theorem orderedFields_ordered (fields : Fields) : (object (orderedFields fields)).Ordered := by
  cases fields with
  | nil => exact .object .nil fun field member => nomatch member
  | cons first rest =>
      rcases first with ⟨name, value⟩
      rw [orderedFields]
      exact (orderedFields_ordered rest).insertField (ordered_ordered value)
termination_by sizeOf fields

end

/-- Putting fields in order keeps which value a name finds, by induction over the fields. -/
theorem field?_orderedFields (fields : Fields) (key : String)
    : field? (orderedFields fields) key = (field? fields key).map ordered := by
  induction fields with
  | nil => rfl
  | cons first rest ih =>
      rcases first with ⟨name, value⟩
      rw [orderedFields, field?_insertField, field?_cons, ih]
      split <;> rfl

-----------------------------------------------------------------------------------------
-- The reader
-----------------------------------------------------------------------------------------

/-- Whatever room there is for containers, a value is in order when its parts are. -/
theorem Ordered.invariant : Reader.Invariant (fun _ value => value.Ordered) where
  null _ := .null
  bool _ value := .bool value
  number _ value := .number value
  string _ value := .string value
  array each := .array each
  noFields _ := .object .nil (by simp)
  insertField ordered new := ordered.insertField new

/-- Every value that is read has the fields of its objects in order. -/
theorem Reader.readText_ordered {text : List Char} {found : Json}
    (read : Reader.readText text = .ok found)
    : found.Ordered :=
  Ordered.invariant.readText read

end MessageCard.Json
