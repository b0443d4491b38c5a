import MessageCard.Proofs.DocumentOrder
import MessageCard.Proofs.GrammarReading

/-! The offences of a document: the unknown tags and the arrays nested too deep that a walk through
its body meets.  The walk knows nothing of levels of validation: what is wrong otherwise matters to
it only where it cuts a list short, so that the rest of the list is never looked at.
-/

namespace MessageCard

open Json

/-- The item is reached at its position: the walk stops at none of the items before it. -/
structure Reached {α : Type} (Stops : α → Prop) (items : List α) (position : Nat) (item : α)
    : Prop where
  listed : items[position]? = some item
  unstopped
    : ∀ earlier < position, ∀ other, items[earlier]? = some other → ¬ Stops other

namespace Reached

variable {α : Type} {Stops : α → Prop} {first item : α} {rest : List α} {position : Nat}

theorem head_iff : Reached Stops (first :: rest) 0 item ↔ first = item := by
  constructor
  · intro reached
    simpa using reached.listed
  · rintro rfl
    exact ⟨rfl, fun earlier before => absurd before (Nat.not_lt_zero earlier)⟩

/-- A later item is reached past the first one, by cases on the positions before it. -/
theorem tail_iff
    : Reached Stops (first :: rest) (position + 1) item
      ↔ ¬ Stops first ∧ Reached Stops rest position item := by
  constructor
  · rintro ⟨listed, unstopped⟩
    refine ⟨unstopped 0 (by omega) first rfl, by simpa using listed, ?_⟩
    intro earlier before other otherListed
    exact unstopped (earlier + 1) (by omega) other (by simpa using otherListed)
  · rintro ⟨passed, listed, unstopped⟩
    refine ⟨by simpa using listed, ?_⟩
    intro earlier before other otherListed
    cases earlier with
    | zero =>
        obtain rfl := Option.some.inj otherListed
        exact passed
    | succ earlier => exact unstopped earlier (by omega) other (by simpa using otherListed)

theorem never_iff {items : List α}
    : Reached (fun _ => False) items position item ↔ items[position]? = some item :=
  ⟨Reached.listed, fun listed => ⟨listed, fun _ _ _ _ stops => stops⟩⟩

/-- What is reached in a list is its first item, or what is reached in the rest when the walk does
not stop at the first.
-/
theorem exists_cons_iff {Holds : Nat → α → Prop}
    : (∃ position item,
        Reached Stops (first :: rest) position item ∧ Holds position item)
      ↔ Holds 0 first
        ∨ ¬ Stops first
          ∧ ∃ position item, Reached Stops rest position item ∧ Holds (position + 1) item := by
  constructor
  · rintro ⟨position, item, reached, holds⟩
    cases position with
    | zero =>
        obtain rfl := head_iff.mp reached
        exact Or.inl holds
    | succ position =>
        obtain ⟨passed, later⟩ := tail_iff.mp reached
        exact Or.inr ⟨passed, position, item, later, holds⟩
  · rintro (holds | ⟨passed, position, item, later, holds⟩)
    · exact ⟨0, first, head_iff.mpr rfl, holds⟩
    · exact ⟨position + 1, item, tail_iff.mpr ⟨passed, later⟩, holds⟩

theorem mem {items : List α} (reached : Reached Stops items position item) : item ∈ items :=
  List.mem_of_getElem? reached.listed

end Reached

-----------------------------------------------------------------------------------------
-- The walk
-----------------------------------------------------------------------------------------

/-- The walk through a note stops at the child: it is no object, or its tag is one of the names
and a field that the tag asks for is missing.
-/
def Json.StopsNote (child : Json) : Prop :=
  child.object? = none
  ∨ ∃ fields, ∃ tag : ChildTag,
      child = .object fields
      ∧ field? fields "tag" = some (.string tag.name)
      ∧ ¬ child.IsChild

/-- The walk through a set stops at the column: it is no object, or its elements are neither
absent nor `null` nor an array.
-/
def Json.StopsSet (column : Json) : Prop :=
  column.columnEntries? = none

/-- The child of a note offends: it is an object whose tag is none of the names, or is missing. -/
inductive Json.ChildOffends (path : Path) : Json → Path → Cause → Prop
  | tag {fields : Fields}
    (unnamed : ∀ tag : ChildTag, field? fields "tag" ≠ some (.string tag.name))
    : ChildOffends path (.object fields) path
        (.unknownTag .noteChild (tagText (field? fields "tag")) ChildTag.allowed)

mutual

/-- The place and the cause of an offence in an array of entries on a level: the array is too deep,
or one of its entries offends.
-/
inductive Json.ListOffends (limit : Nat) : Path → Nat → List Json → Path → Cause → Prop
  | depth {path : Path} {level : Nat} {entries : List Json} (deep : limit < level)
    : ListOffends limit path level entries path (.depthExceeded limit)
  | entry {path : Path} {level : Nat} {entries : List Json} {position : Nat} {entry : Json}
    {place : Path} {cause : Cause}
    (within : level ≤ limit) (listed : entries[position]? = some entry)
    (offends : EntryOffends limit (path.item position) level entry place cause)
    : ListOffends limit path level entries place cause

/-- The place and the cause of an offence in an entry on a level: its tag is unknown, or a child or
a column that the walk reaches offends.
-/
inductive Json.EntryOffends (limit : Nat) : Path → Nat → Json → Path → Cause → Prop
  | tag {path : Path} {level : Nat} {fields : Fields} {value : Json}
    (given : truthyField? fields "tag" = some value)
    (unnamed : ∀ tag : ElementTag, value ≠ .string tag.name)
    : EntryOffends limit path level (.object fields) path
        (.unknownTag .element (tagText (some value)) ElementTag.allowed)
  | note {path : Path} {level : Nat} {fields : Fields} {children : List Json}
    {position : Nat} {child : Json} {place : Path} {cause : Cause}
    (named : field? fields "tag" = some (.string ElementTag.note.name))
    (listed : field? fields "elements" = some (.array children))
    (reached : Reached Json.StopsNote children position child)
    (offends : child.ChildOffends ((path.field "elements").item position) place cause)
    : EntryOffends limit path level (.object fields) place cause
  | columnSet {path : Path} {level : Nat} {fields : Fields} {columns : List Json}
    {position : Nat} {column : Json} {place : Path} {cause : Cause}
    (named : field? fields "tag" = some (.string ElementTag.columnSet.name))
    (listed : field? fields "columns" = some (.array columns))
    (reached : Reached Json.StopsSet columns position column)
    (offends
      : ColumnOffends limit ((path.field "columns").item position) level column place cause)
    : EntryOffends limit path level (.object fields) place cause

/-- The place and the cause of an offence in a column of a set on a level: its entries, if it has
any, are walked one level deeper.
-/
inductive Json.ColumnOffends (limit : Nat) : Path → Nat → Json → Path → Cause → Prop
  | entries {path : Path} {level : Nat} {column : Json} {entries : List Json}
    {place : Path} {cause : Cause}
    (shaped : column.columnEntries? = some entries) (occupied : entries ≠ [])
    (offends : ListOffends limit (path.field "elements") (level + 1) entries place cause)
    : ColumnOffends limit path level column place cause

end

/-- The entries of the body, none if it is missing or no array. -/
def Document.entries (document : Document) : List Json :=
  (document.elements.bind array?).getD []

/-- The place and the cause of an offence in the document. -/
def Document.Offends (document : Document) (limit : Nat) : Path → Cause → Prop :=
  ListOffends limit Path.body 1 document.entries

-----------------------------------------------------------------------------------------
-- Children as the walk sees them
-----------------------------------------------------------------------------------------

theorem Json.IsChild.passes {child : Json} (form : child.IsChild) : ¬ child.StopsNote := by
  rintro (shape | ⟨_, _, _, _, lacks⟩)
  · cases form <;> cases shape
  · exact lacks form

/-- A child stops the walk and is read as faulty, or offends with its tag, or is in the grammar. -/
theorem Child.walk_cases (child : Json)
    : (child.StopsNote ∧ ∃ fault, Child.ofJson child = .faulty fault)
      ∨ (∃ fields,
          child = .object fields
          ∧ (∀ tag : ChildTag, field? fields "tag" ≠ some (.string tag.name))
          ∧ Child.ofJson child = .unknown (tagText (field? fields "tag")))
      ∨ child.IsChild := by
  rcases Child.reading child with
    ⟨shape, read⟩ | ⟨fields, shape, unnamed, read⟩ | ⟨fields, tag, rfl, named, read⟩
  · exact Or.inl ⟨Or.inl shape, _, read⟩
  · exact Or.inr (Or.inl ⟨fields, shape, unnamed, read⟩)
  · rcases Child.ofTagged_cases named with form | ⟨lacks, fault, faulty⟩
    · exact Or.inr (Or.inr form)
    · exact Or.inl ⟨Or.inr ⟨fields, tag, rfl, named, lacks⟩, fault, read.trans faulty⟩

theorem Json.StopsNote.not_offends {child : Json} (stops : child.StopsNote) {path place : Path}
    {cause : Cause}
    : ¬ child.ChildOffends path place cause := by
  rintro ⟨unnamed⟩
  rcases stops with shape | ⟨_, tag, same, named, _⟩
  · cases shape
  · cases same
    exact unnamed tag named

theorem Json.IsChild.not_offends {child : Json} (form : child.IsChild) {path place : Path}
    {cause : Cause}
    : ¬ child.ChildOffends path place cause := by
  rintro ⟨unnamed⟩
  cases form with
  | text tag _ named _ => exact unnamed tag named
  | image named _ => exact unnamed .img named

-----------------------------------------------------------------------------------------
-- Where offences lie
-----------------------------------------------------------------------------------------

theorem Json.ChildOffends.held {path place : Path} {child : Json} {cause : Cause}
    (offends : child.ChildOffends path place cause)
    : path.holds place = true := by
  cases offends with
  | tag _ => exact path.holds_self

mutual

/-- An offence in an array lies in the array.  By mutual recursion along the walk, as in the two
theorems that follow.
-/
theorem Json.ListOffends.held {limit : Nat} {path : Path} {level : Nat} {entries : List Json}
    {place : Path} {cause : Cause}
    : ListOffends limit path level entries place cause → path.holds place = true
  | .depth _ => path.holds_self
  | .entry _ _ below => Path.holds_of_item below.held

theorem Json.EntryOffends.held {limit : Nat} {path : Path} {level : Nat} {entry : Json}
    {place : Path} {cause : Cause}
    : EntryOffends limit path level entry place cause → path.holds place = true
  | .tag _ _ => path.holds_self
  | .note _ _ _ below => Path.holds_of_field (Path.holds_of_item below.held)
  | .columnSet _ _ _ below => Path.holds_of_field (Path.holds_of_item below.held)

theorem Json.ColumnOffends.held {limit : Nat} {path : Path} {level : Nat} {column : Json}
    {place : Path} {cause : Cause}
    : ColumnOffends limit path level column place cause → path.holds place = true
  | .entries _ _ below => Path.holds_of_field below.held

end

/-- An array within its level has the offences of its entries. -/
theorem Json.listOffends_iff_of_le {limit : Nat} {path : Path} {level : Nat}
    {entries : List Json} {place : Path} {cause : Cause} (within : level ≤ limit)
    : ListOffends limit path level entries place cause
      ↔ ∃ position entry,
          entries[position]? = some entry
          ∧ EntryOffends limit (path.item position) level entry place cause := by
  constructor
  · intro offends
    cases offends with
    | depth deep => omega
    | entry _ listed below => exact ⟨_, _, listed, below⟩
  · rintro ⟨position, entry, listed, below⟩
    exact .entry within listed below

/-- An array that is too deep has one offence, which is itself. -/
theorem Json.listOffends_iff_of_lt {limit : Nat} {path : Path} {level : Nat}
    {entries : List Json} {place : Path} {cause : Cause} (deep : limit < level)
    : ListOffends limit path level entries place cause
      ↔ place = path ∧ cause = .depthExceeded limit := by
  constructor
  · intro offends
    cases offends with
    | depth _ => exact ⟨rfl, rfl⟩
    | entry within _ _ => omega
  · rintro ⟨rfl, rfl⟩
    exact .depth deep

section Tagged

variable {limit : Nat} {path : Path} {level : Nat} {fields : Fields} {tag : ElementTag}
  {place : Path} {cause : Cause}

/-- An entry without a tag that counts as given does not offend. -/
theorem Json.not_entryOffends_of_untagged {entry : Json}
    (untagged : ∀ fields, entry = .object fields → truthyField? fields "tag" = none)
    : ¬ EntryOffends limit path level entry place cause := by
  intro offends
  have tagged {fields : Fields} {value : Json} (shape : entry = .object fields)
      (found : field? fields "tag" = some value)
      : value.isTruthy = false := by
    rw [Bool.eq_false_iff]
    intro truthy
    cases (untagged fields shape).symm.trans (truthyField?_eq_some_iff.mpr ⟨found, truthy⟩)
  cases offends with
  | tag given _ => cases (untagged _ rfl).symm.trans given
  | note named _ _ _ => exact absurd (tagged rfl named) (by decide)
  | columnSet named _ _ _ => exact absurd (tagged rfl named) (by decide)

/-- An entry whose tag is none of the names has one offence, which is its tag. -/
theorem Json.entryOffends_iff_of_unnamed {value : Json}
    (given : truthyField? fields "tag" = some value)
    (unnamed : ∀ tag : ElementTag, value ≠ .string tag.name)
    : EntryOffends limit path level (.object fields) place cause
      ↔ place = path
        ∧ cause = .unknownTag .element (tagText (some value)) ElementTag.allowed := by
  have found := (truthyField?_eq_some_iff.mp given).1
  constructor
  · intro offends
    cases offends with
    | tag again _ =>
        obtain rfl := Option.some.inj (given.symm.trans again)
        exact ⟨rfl, rfl⟩
    | note named _ _ _ => exact (unnamed _ (Option.some.inj (found.symm.trans named))).elim
    | columnSet named _ _ _ =>
        exact (unnamed _ (Option.some.inj (found.symm.trans named))).elim
  · rintro ⟨rfl, rfl⟩
    exact .tag given unnamed

/-- An entry whose tag is a name offends only as a note or as a set does. -/
theorem Json.EntryOffends.of_tag (named : field? fields "tag" = some (.string tag.name))
    (offends : EntryOffends limit path level (.object fields) place cause)
    : (tag = .note
        ∧ ∃ position child,
            Reached Json.StopsNote (itemsOf fields "elements") position child
            ∧ child.ChildOffends ((path.field "elements").item position) place cause)
      ∨ (tag = .columnSet
        ∧ ∃ position column,
            Reached Json.StopsSet (itemsOf fields "columns") position column
            ∧ column.ColumnOffends limit ((path.field "columns").item position) level place
                cause) := by
  have only {other : ElementTag} (again : field? fields "tag" = some (.string other.name))
      : tag = other :=
    Option.some.inj ((elementTag_found_iff.mpr named).symm.trans
      (elementTag_found_iff.mpr again))
  cases offends with
  | tag given unnamed =>
      have found := (truthyField?_eq_some_iff.mp given).1
      exact (unnamed tag (Option.some.inj (found.symm.trans named))).elim
  | note again listed reached below =>
      rw [← itemsOf_of_listed listed (List.ne_nil_of_mem reached.mem)] at reached
      exact Or.inl ⟨only again, _, _, reached, below⟩
  | columnSet again listed reached below =>
      rw [← itemsOf_of_listed listed (List.ne_nil_of_mem reached.mem)] at reached
      exact Or.inr ⟨only again, _, _, reached, below⟩

/-- A note has the offences of the children that the walk reaches. -/
theorem Json.entryOffends_note_iff
    (named : field? fields "tag" = some (.string ElementTag.note.name))
    : EntryOffends limit path level (.object fields) place cause
      ↔ ∃ position child,
          Reached Json.StopsNote (itemsOf fields "elements") position child
          ∧ child.ChildOffends ((path.field "elements").item position) place cause := by
  constructor
  · intro offends
    rcases offends.of_tag named with ⟨_, found⟩ | ⟨other, _⟩
    · exact found
    · cases other
  · rintro ⟨position, child, reached, offends⟩
    exact .note named (listed_of_mem_itemsOf reached.mem) reached offends

/-- A set has the offences of the columns that the walk reaches. -/
theorem Json.entryOffends_columnSet_iff
    (named : field? fields "tag" = some (.string ElementTag.columnSet.name))
    : EntryOffends limit path level (.object fields) place cause
      ↔ ∃ position column,
          Reached Json.StopsSet (itemsOf fields "columns") position column
          ∧ column.ColumnOffends limit ((path.field "columns").item position) level place
              cause := by
  constructor
  · intro offends
    rcases offends.of_tag named with ⟨other, _⟩ | ⟨_, found⟩
    · cases other
    · exact found
  · rintro ⟨position, column, reached, offends⟩
    exact .columnSet named (listed_of_mem_itemsOf reached.mem) reached offends

end Tagged

end MessageCard
