import MessageCard.Json.Reader

/-! What holds of every value that is read.  A property that all ways of building a value keep holds of
whatever the reader makes of a text; it may depend on the room for containers, which is one less for
the parts of an array or object than for the whole.
-/

namespace MessageCard.Json.Reader

/-- The property is kept by all ways in which a value is built from its parts, with so much room for
containers.
-/
structure Invariant (Holds : Nat → Json → Prop) : Prop where
  null : ∀ room, Holds room .null
  bool : ∀ room value, Holds room (.bool value)
  number : ∀ room value, Holds room (.number value)
  string : ∀ room value, Holds room (.string value)
  array : ∀ {room items}, (∀ item ∈ items, Holds room item) → Holds (room + 1) (.array items)
  noFields : ∀ room, Holds (room + 1) (.object [])
  insertField
    : ∀ {room fields name value},
        Holds (room + 1) (.object fields)
        → Holds room value
        → Holds (room + 1) (.object (Json.insertField name value fields))

/-- A sequence of two readings succeeds exactly when both do. -/
theorem bind_ok_iff {ε α β : Type} {reading : Except ε α} {next : α → Except ε β} {result : β}
    : reading >>= next = .ok result ↔ ∃ inner, reading = .ok inner ∧ next inner = .ok result := by
  cases reading with
  | error failure => simp [bind, Except.bind]
  | ok inner => simp [bind, Except.bind]

theorem mapReading_ok_iff {α β : Type} {f : α → β} {reading : Except Failure (α × List Char)}
    {result : β} {rest : List Char}
    : mapReading f reading = .ok (result, rest)
      ↔ ∃ inner, reading = .ok (inner, rest) ∧ f inner = result := by
  rcases reading with failure | ⟨inner, left⟩
  · simp [mapReading]
  · simp only [mapReading, Except.ok.injEq, Prod.mk.injEq]
    grind

theorem word_result {α : Type} {result found : α} {expected text rest : List Char}
    (read : word result expected text = .ok (found, rest))
    : found = result := by
  induction expected generalizing text with
  | nil => cases read; rfl
  | cons c expected ih =>
      cases text with
      | nil => cases read
      | cons d text =>
          rw [word] at read
          split at read
          · exact ih read
          · cases read

/-- The property holds of whatever is read within the bound. -/
structure Reads (Holds : Nat → Json → Prop) (bound : Nat) : Prop where
  value
    : ∀ {room : Nat} {text rest : List Char} {found : Json},
        Reader.value bound room text = .ok (found, rest) → Holds room found
  items
    : ∀ {room : Nat} {first : Bool} {text rest : List Char} {found : List Json},
        Reader.items bound room first text = .ok (found, rest) → ∀ item ∈ found, Holds room item
  fields
    : ∀ {room : Nat} {first : Bool} {seen found : Fields} {text rest : List Char},
        Holds (room + 1) (.object seen)
        → Reader.fields bound room first seen text = .ok (found, rest)
        → Holds (room + 1) (.object found)

variable {Holds : Nat → Json → Prop} {bound room : Nat} {first : Bool} {text rest : List Char}

/-- The property holds of a value when it does of its parts: cases on the character that it starts
with.
-/
theorem Reads.succ_value (kept : Invariant Holds) (below : Reads Holds bound) {found : Json}
    (read : Reader.value (bound + 1) room text = .ok (found, rest))
    : Holds room found := by
  rw [Reader.value] at read
  split at read
  · cases read
  · rw [word_result read]
    exact kept.null room
  · rw [word_result read]
    exact kept.bool room true
  · rw [word_result read]
    exact kept.bool room false
  · obtain ⟨content, _, rfl⟩ := mapReading_ok_iff.mp read
    exact kept.string room content
  · split at read
    · cases read
    · obtain ⟨inner, readItems, rfl⟩ := mapReading_ok_iff.mp read
      exact kept.array (below.items readItems)
  · split at read
    · cases read
    · obtain ⟨inner, readFields, rfl⟩ := mapReading_ok_iff.mp read
      exact below.fields (kept.noFields _) readFields
  · split at read
    · obtain ⟨content, _, rfl⟩ := mapReading_ok_iff.mp read
      exact kept.number room content
    · cases read

theorem Reads.succ_items (below : Reads Holds bound) {found : List Json}
    (read : Reader.items (bound + 1) room first text = .ok (found, rest))
    : ∀ item ∈ found, Holds room item := by
  rw [Reader.items] at read
  split at read
  · cases read
  · cases read
    simp
  · split at read
    · cases read
    · rename_i item left readItem
      obtain ⟨more, readMore, rfl⟩ := mapReading_ok_iff.mp read
      intro entry member
      rcases List.mem_cons.mp member with rfl | later
      · exact below.value readItem
      · exact below.items readMore entry later

theorem Reads.succ_fields (kept : Invariant Holds) (below : Reads Holds bound)
    {seen found : Fields} (before : Holds (room + 1) (.object seen))
    (read : Reader.fields (bound + 1) room first seen text = .ok (found, rest))
    : Holds (room + 1) (.object found) := by
  rw [Reader.fields] at read
  split at read
  · cases read
  · cases read
    exact before
  · split at read
    · cases read
    · split at read
      · cases read
      · split at read
        · cases read
        · rename_i item left readItem
          exact below.fields (kept.insertField before (below.value readItem)) read

/-- By induction on the bound, for values, items and fields at once. -/
theorem Invariant.reads (kept : Invariant Holds) (bound : Nat) : Reads Holds bound := by
  induction bound with
  | zero =>
      constructor
      case value => intro room text rest found read; cases read
      case items => intro room first text rest found read; cases read
      case fields => intro room first seen found text rest _ read; cases read
  | succ bound ih =>
      constructor
      case value => exact fun read => ih.succ_value kept read
      case items => exact fun read => ih.succ_items read
      case fields => exact fun before read => ih.succ_fields kept before read

/-- The property holds of every value that is read, with room for all containers that may be open. -/
theorem Invariant.readText (kept : Invariant Holds) {text : List Char} {found : Json}
    (read : Reader.readText text = .ok found)
    : Holds nestingLimit found := by
  simp only [Reader.readText, bind, Except.bind] at read
  split at read
  · cases read
  · rename_i reading valueRead
    rcases reading with ⟨result, rest⟩
    have same : result = found := by
      simp only [finished] at read
      split at read
      · exact Except.ok.inj read
      · cases read
    rw [← same]
    exact (kept.reads _).value valueRead

end MessageCard.Json.Reader
