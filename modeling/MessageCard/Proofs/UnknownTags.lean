import MessageCard.Proofs.FirstOffence

/-! Which unknown tags are reported below the strict level.  A walk through a document meets arrays
of entries; the full walk meets them all, the cut one stops in a note at a child that fails and in
a set at a column that is misshaped.  An unknown tag ends the compilation exactly when the cut walk
meets it: one that follows a failure in its own note, or in its own set, is masked.
-/

namespace MessageCard

open Json

/-- A walk through a document: where it stops in a set, and where in a note. -/
structure Walk where
  StopsSet : Json → Prop
  StopsNote : Json → Prop

namespace Walk

/-- The walk that stops nowhere. -/
def full : Walk where
  StopsSet := fun _ => False
  StopsNote := fun _ => False

/-- The walk that stops where the rest of a set or of a note is given up. -/
def cut : Walk where
  StopsSet := Json.StopsSet
  StopsNote := Json.StopsNote

/-- The walk meets an array of entries on a level: the body, or the elements of a column that it
reaches in a set among the entries of an array.
-/
inductive Meets (walk : Walk) (document : Document) : Nat → List Json → Prop
  | body : Meets walk document 1 document.entries
  | column {level : Nat} {entries : List Json} {fields : Fields} {columns : List Json}
    {position : Nat} {column : Json} {inner : List Json}
    (outer : Meets walk document level entries) (member : .object fields ∈ entries)
    (named : field? fields "tag" = some (.string ElementTag.columnSet.name))
    (listed : field? fields "columns" = some (.array columns))
    (reached : Reached walk.StopsSet columns position column)
    (shaped : column.columnEntries? = some inner) (occupied : inner ≠ [])
    : Meets walk document (level + 1) inner

/-- The walk meets an unknown tag: that of an entry, or that of a child that it reaches in a note.
-/
inductive MeetsUnknownTag (walk : Walk) (document : Document) : Prop
  | entry {level : Nat} {entries : List Json} {fields : Fields} {value : Json}
    (met : walk.Meets document level entries) (member : .object fields ∈ entries)
    (given : truthyField? fields "tag" = some value)
    (unnamed : ∀ tag : ElementTag, value ≠ .string tag.name)
  | child {level : Nat} {entries : List Json} {fields : Fields} {children : List Json}
    {position : Nat} {content : Fields}
    (met : walk.Meets document level entries) (member : .object fields ∈ entries)
    (named : field? fields "tag" = some (.string ElementTag.note.name))
    (listed : field? fields "elements" = some (.array children))
    (reached : Reached walk.StopsNote children position (.object content))
    (unnamed : ∀ tag : ChildTag, field? content "tag" ≠ some (.string tag.name))

/-- What the cut walk meets, the full one meets too, by induction from the body inwards. -/
theorem Meets.of_cut {document : Document} {level : Nat} {entries : List Json}
    (met : cut.Meets document level entries)
    : full.Meets document level entries := by
  induction met with
  | body => exact .body
  | column _ member named listed reached shaped occupied ih =>
      exact .column ih member named listed (Reached.never_iff.mpr reached.listed) shaped occupied

end Walk

/-- Every array of entries in the document is within the limit. -/
def Document.NestedWithin (document : Document) (limit : Nat) : Prop :=
  ∀ level entries, Walk.full.Meets document level entries → level ≤ limit

/-- A document without sets is within every limit, since its body is its only array; by induction
over what is met.
-/
theorem Document.nestedWithin_of_flat {document : Document} {limit : Nat}
    (flat
      : ∀ fields,
          .object fields ∈ document.entries
          → field? fields "tag" ≠ some (.string ElementTag.columnSet.name))
    (positive : 1 ≤ limit)
    : document.NestedWithin limit := by
  intro level entries met
  have only : level = 1 ∧ entries = document.entries := by
    induction met with
    | body => exact ⟨rfl, rfl⟩
    | column _ member named _ _ _ _ ih =>
        rw [ih.2] at member
        exact (flat _ member named).elim
  omega

/-- The cause is an unknown tag. -/
def Cause.IsUnknownTag (cause : Cause) : Prop :=
  ∃ field tag allowed, cause = .unknownTag field tag allowed

/-- The compilation fails with an unknown tag. -/
def Document.FailsWithUnknownTag (document : Document) (options : Options) : Prop :=
  ∃ fatal, document.compile options = .error fatal ∧ fatal.cause.IsUnknownTag

/-- The walk meets what the cause is due to: an unknown tag, or an array on a level that is too deep.
-/
def Walk.MeetsCause (walk : Walk) (document : Document) (limit : Nat) : Cause → Prop
  | .unknownTag _ _ _ => walk.MeetsUnknownTag document
  | .depthExceeded payload =>
      payload = limit ∧ ∃ level entries, walk.Meets document level entries ∧ limit < level
  | _ => False

-----------------------------------------------------------------------------------------
-- Offences and the cut walk
-----------------------------------------------------------------------------------------

section Offences

variable {document : Document} {limit : Nat}

theorem Json.ChildOffends.isUnknownTag {path place : Path} {child : Json} {cause : Cause}
    (offends : child.ChildOffends path place cause)
    : cause.IsUnknownTag
      ∧ ∃ content,
          child = .object content
          ∧ ∀ tag : ChildTag, field? content "tag" ≠ some (.string tag.name) := by
  cases offends with
  | tag unnamed => exact ⟨⟨_, _, _, rfl⟩, _, rfl, unnamed⟩

mutual

/-- What an offence in an array that the cut walk meets is due to, the cut walk meets.  By mutual
recursion along the offence, as in the two theorems that follow.
-/
theorem Json.ListOffends.metCause {path : Path} {level : Nat} {entries : List Json}
    {place : Path} {cause : Cause} (met : Walk.cut.Meets document level entries)
    : ListOffends limit path level entries place cause
      → Walk.cut.MeetsCause document limit cause
  | .depth deep => ⟨rfl, level, entries, met, deep⟩
  | .entry _ listed below => below.metCause met (List.mem_of_getElem? listed)

theorem Json.EntryOffends.metCause {path : Path} {level : Nat} {entries : List Json}
    {entry : Json} {place : Path} {cause : Cause}
    (met : Walk.cut.Meets document level entries) (member : entry ∈ entries)
    : EntryOffends limit path level entry place cause
      → Walk.cut.MeetsCause document limit cause
  | .tag given unnamed => .entry met member given unnamed
  | .note named listed reached below => by
      obtain ⟨⟨_, _, _, rfl⟩, content, rfl, unnamed⟩ := below.isUnknownTag
      exact .child met member named listed reached unnamed
  | .columnSet named listed reached below =>
      below.metCause fun _ shaped occupied =>
        .column met member named listed reached shaped occupied

theorem Json.ColumnOffends.metCause {path : Path} {level : Nat} {column : Json}
    {place : Path} {cause : Cause}
    (met
      : ∀ entries,
          column.columnEntries? = some entries
          → entries ≠ []
          → Walk.cut.Meets document (level + 1) entries)
    : ColumnOffends limit path level column place cause
      → Walk.cut.MeetsCause document limit cause
  | .entries shaped occupied below => below.metCause (met _ shaped occupied)

end

/-- In a document within the limit every offence is an unknown tag that the cut walk meets. -/
theorem Json.ListOffends.isUnknownTag (within : document.NestedWithin limit) {path : Path}
    {level : Nat} {entries : List Json} {place : Path} {cause : Cause}
    (met : Walk.cut.Meets document level entries)
    (offends : ListOffends limit path level entries place cause)
    : cause.IsUnknownTag ∧ Walk.cut.MeetsUnknownTag document := by
  have meets := offends.metCause met
  cases cause with
  | unknownTag field tag allowed => exact ⟨⟨field, tag, allowed, rfl⟩, meets⟩
  | depthExceeded payload =>
      -- the full walk meets the array too, and would find it too deep
      obtain ⟨_, deeper, inner, there, deep⟩ := meets
      exact absurd (within deeper inner there.of_cut) (Nat.not_le.mpr deep)
  | _ => exact meets.elim

/-- In a document within the limit the offences of an array that the cut walk meets are offences
of the document.  By induction from the body inwards.
-/
theorem Walk.Meets.offends (within : document.NestedWithin limit) {level : Nat}
    {entries : List Json} (met : Walk.cut.Meets document level entries)
    : ∃ path, ∀ place cause,
        ListOffends limit path level entries place cause
        → document.Offends limit place cause := by
  induction met with
  | body => exact ⟨Path.body, fun _ _ offends => offends⟩
  | @column level entries fields columns position column inner outer member named listed reached
      shaped occupied ih =>
      obtain ⟨path, outwards⟩ := ih
      obtain ⟨index, found⟩ := List.mem_iff_getElem?.mp member
      refine ⟨(((path.item index).field "columns").item position).field "elements", ?_⟩
      intro place cause offends
      refine outwards place cause (.entry (within level entries outer.of_cut) found ?_)
      exact .columnSet named listed reached (.entries shaped occupied offends)

/-- In a document within the limit an unknown tag that the cut walk meets is an offence. -/
theorem Walk.MeetsUnknownTag.offends (within : document.NestedWithin limit)
    (unknown : Walk.cut.MeetsUnknownTag document)
    : ∃ place cause, document.Offends limit place cause := by
  cases unknown with
  | entry met member given unnamed =>
      obtain ⟨path, outwards⟩ := met.offends within
      obtain ⟨index, found⟩ := List.mem_iff_getElem?.mp member
      exact ⟨_, _, outwards _ _
        (.entry (within _ _ met.of_cut) found (.tag given unnamed))⟩
  | child met member named listed reached unnamed =>
      obtain ⟨path, outwards⟩ := met.offends within
      obtain ⟨index, found⟩ := List.mem_iff_getElem?.mp member
      exact ⟨_, _, outwards _ _
        (.entry (within _ _ met.of_cut) found (.note named listed reached (.tag unnamed)))⟩

end Offences

/-- Below the strict level a document within the limit of nesting fails exactly when the cut walk
meets an unknown tag, and then with an unknown tag, whatever else in it is invalid.
-/
theorem Document.compile_unknownTag_iff {document : Document} {options : Options}
    (lenient : options.level ≠ .error) (within : document.NestedWithin options.maxDepth)
    : (document.FailsWithUnknownTag options ↔ Walk.cut.MeetsUnknownTag document)
      ∧ ∀ fatal, document.compile options = .error fatal → fatal.cause.IsUnknownTag := by
  have ends := document.trace_endsAtFirst lenient
  have failure {fatal : Diagnostic} (failed : document.compile options = .error fatal)
      : fatal.cause.IsUnknownTag ∧ Walk.cut.MeetsUnknownTag document := by
    obtain ⟨place, cause, first, rfl⟩ := ends.first fatal (compile_error_iff_trace.mp failed)
    exact first.offends.isUnknownTag within .body
  refine ⟨⟨?_, ?_⟩, fun fatal failed => (failure failed).1⟩
  · rintro ⟨fatal, failed, _⟩
    exact (failure failed).2
  · intro unknown
    obtain ⟨fatal, aborted⟩ := ends.aborts_iff.mpr (unknown.offends within)
    have failed := compile_error_iff_trace.mpr aborted
    exact ⟨fatal, failed, (failure failed).1⟩

/-- A `div` without its text, and a note with a child that is no part of the grammar of notes. -/
def Document.mixed : Document where
  config := none
  header := none
  elements := some (.array
    [.object [("tag", .string "div")],
      .object
        [("tag", .string "note"),
          ("elements", .array
            [.object [("tag", .string "plain_text"), ("content", .string "a")],
              .object [("tag", .string "button")]])]])
  sourceId := 0

/-- The unknown child is met past the faulty `div` and the good child.  Witness: the children of
the note, one by one.
-/
theorem Document.mixed_fails
    : Level.warning ≠ .error
      ∧ mixed.NestedWithin 1
      ∧ mixed.FailsWithUnknownTag { level := .warning, maxDepth := 1 } := by
  have lenient : Level.warning ≠ .error := by decide
  have within : mixed.NestedWithin 1 := by
    refine nestedWithin_of_flat (fun fields member => ?_) (Nat.le_refl 1)
    simp only [mixed, entries, Option.bind_some, array?, Option.getD_some, List.mem_cons,
      Json.object.injEq, List.not_mem_nil, or_false] at member
    rcases member with rfl | rfl <;> simp [field?, ElementTag.name]
  have met : Walk.cut.MeetsUnknownTag mixed := by
    have passed
        : ¬ Json.StopsNote (.object [("tag", .string "plain_text"), ("content", .string "a")]) :=
      (Json.IsChild.text .plainText (by decide) rfl ⟨"a", rfl, by decide⟩).passes
    have reached
        : Reached Json.StopsNote
            [.object [("tag", .string "plain_text"), ("content", .string "a")],
              .object [("tag", .string "button")]]
            1 (.object [("tag", .string "button")]) :=
      Reached.tail_iff.mpr ⟨passed, Reached.head_iff.mpr rfl⟩
    refine .child .body (List.mem_cons_of_mem _ (List.mem_singleton.mpr rfl)) rfl rfl reached
      fun tag => ?_
    cases tag <;> simp [field?, ChildTag.name]
  refine ⟨lenient, within, ?_⟩
  exact ((@compile_unknownTag_iff mixed { level := .warning, maxDepth := 1 } lenient
    within).1).mpr met

/-- A note whose first child lacks its content, before a child that is no part of the grammar of
notes.
-/
def Document.masked : Document where
  config := none
  header := none
  elements := some (.array
    [.object
      [("tag", .string "note"),
        ("elements", .array
          [.object [("tag", .string "plain_text"), ("content", .string "")],
            .object [("tag", .string "button")]])]])
  sourceId := 0

/-- An unknown tag is not reported wherever it stands: the note of the masked document is dropped
for its first child, and the compilation succeeds.
-/
theorem Document.unknownTag_masked
    : ¬ ∀ (document : Document) (options : Options),
        options.level ≠ .error
        → document.NestedWithin options.maxDepth
        → Walk.full.MeetsUnknownTag document
        → document.FailsWithUnknownTag options := by
  intro always
  have within : masked.NestedWithin 1 := by
    refine nestedWithin_of_flat (fun fields member => ?_) (Nat.le_refl 1)
    simp only [masked, entries, Option.bind_some, array?, Option.getD_some,
      List.mem_singleton, Json.object.injEq] at member
    subst member
    simp [field?, ElementTag.name]
  have met : Walk.full.MeetsUnknownTag masked := by
    have reached
        : Reached Walk.full.StopsNote
            [.object [("tag", .string "plain_text"), ("content", .string "")],
              .object [("tag", .string "button")]]
            1 (.object [("tag", .string "button")]) :=
      Reached.never_iff.mpr rfl
    refine .child .body (List.mem_singleton.mpr rfl) rfl rfl reached fun tag => ?_
    cases tag <;> simp [field?, ChildTag.name]
  obtain ⟨fatal, failed, _⟩ :=
    always masked { level := .warning, maxDepth := 1 } (by decide) within met
  have passed : (masked.compile { level := .warning, maxDepth := 1 }).isOk = true := rfl
  rw [failed] at passed
  cases passed

end MessageCard
