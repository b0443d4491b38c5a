import MessageCard.Proofs.FailurePlaces

/-! Ranges of refused texts.  A refusal names a range of the bytes of its text.  Where the text is no
object the range is one of whole characters; where it is no JSON it is empty and stands between two
characters, unless the reader failed at a byte that is not the first of its character.
-/

namespace MessageCard

open Json.Reader

/-- The reader failed at a byte that is not the first of its character: the text broke off within a
string, at a character of several bytes; or four bytes were looked at for the digits of an escape, and
the last of them is within a character.
-/
inductive Json.Reader.Failure.Splits (source : List Char) (failure : Failure) : Prop
  | brokenOff {before : List Char} {c : Char} (defect : failure.defect = .endInString)
    (ended : failure.rest = []) (last : failure.ahead = 0) (whole : source = before ++ [c])
    (wide : 1 < c.utf8Size)
  | badEscape {inside after : List Char} {c : Char} (defect : failure.defect = .badEscape)
    (left : failure.rest = inside ++ c :: after) (last : failure.ahead = 4)
    (early : utf8Length inside < 3) (late : 3 < utf8Length inside + c.utf8Size)

variable {source : List Char}

/-- Each byte of a text is in one of its characters, by induction over them. -/
theorem exists_char_at {text : List Char} {count : Nat} (inside : count < utf8Length text)
    : ∃ before c after,
        text = before ++ c :: after
        ∧ utf8Length before ≤ count
        ∧ count < utf8Length before + c.utf8Size := by
  induction text generalizing count with
  | nil => exact (Nat.not_lt_zero _ inside).elim
  | cons first rest ih =>
      rw [utf8Length_cons] at inside
      by_cases within : count < first.utf8Size
      · exact ⟨[], first, rest, rfl, Nat.zero_le _, by simpa [utf8Length, total] using within⟩
      · obtain ⟨before, c, after, rfl, lower, upper⟩ :=
          ih (show count - first.utf8Size < utf8Length rest by omega)
        refine ⟨first :: before, c, after, rfl, ?_, ?_⟩
        · rw [utf8Length_cons]
          omega
        · rw [utf8Length_cons]
          omega

/-- The offset of a failure counts the bytes before what is left, and those of it that were looked
at.
-/
theorem Json.Reader.Failure.offset_eq {failure : Failure} {before : List Char}
    (whole : source = before ++ failure.rest) (seen : failure.ahead ≤ utf8Length failure.rest)
    : failure.offset source = utf8Length before + failure.ahead := by
  rw [offset, whole, utf8Length_append, Nat.add_sub_cancel]
  exact Nat.min_eq_left (Nat.add_le_add_left seen _)

/-- The offset that a reader stands for after some bytes of the source. -/
def standFor (source : List Char) (count : Nat) : Nat :=
  (Position.after (utf8 source) count).offset (utf8 source)

/-- After the last byte of a text a reader stands for a boundary exactly when the last character is
of a single byte.
-/
theorem isBoundary_end_iff {before : List Char} {c : Char} (whole : source = before ++ [c])
    : IsBoundary source (standFor source (utf8Length source)) ↔ c.utf8Size = 1 := by
  have positive := c.utf8Size_pos
  have size : utf8Length source = utf8Length before + ((c.utf8Size - 1) + 1) := by
    rw [whole, utf8Length_concat, Nat.sub_add_cancel positive]
  rw [size, standFor, Position.isBoundary_offset_iff whole (by omega)]
  omega

/-- Between its characters of a single byte a reader stands for boundaries. -/
theorem Json.Reader.Stands.isBoundary {before rest : List Char} (whole : source = before ++ rest)
    (single : ∀ c, before.getLast? = some c → c.utf8Size = 1)
    : IsBoundary source (standFor source (utf8Length before)) := by
  cases last : before.getLast? with
  | none =>
      obtain rfl := List.getLast?_eq_none_iff.mp last
      exact ⟨[], List.nil_prefix, (Position.offset_after (Nat.zero_le _)).symm⟩
  | some c =>
      obtain ⟨first, rfl⟩ := List.getLast?_eq_some_iff.mp last
      rw [List.append_assoc, List.singleton_append] at whole
      rw [utf8Length_concat, single c last, ← Nat.zero_add 1]
      exact (Position.isBoundary_offset_iff whole c.utf8Size_pos).mpr rfl

/-- After four more bytes a reader stands for a boundary exactly when the last of them is the first of
its character.
-/
theorem isBoundary_four_iff {before inside after : List Char} {c : Char}
    (whole : source = before ++ (inside ++ c :: after)) (lower : utf8Length inside ≤ 3)
    (upper : 3 < utf8Length inside + c.utf8Size)
    : IsBoundary source (standFor source (utf8Length before + 4)) ↔ utf8Length inside = 3 := by
  have size
      : utf8Length before + 4
        = utf8Length (before ++ inside) + ((3 - utf8Length inside) + 1) := by
    rw [utf8Length_append]
    omega
  rw [← List.append_assoc] at whole
  rw [size, standFor, Position.isBoundary_offset_iff whole (by omega)]
  omega

namespace Json.Reader.Failure

theorem standFor_offset {failure : Failure} {before : List Char}
    (whole : source = before ++ failure.rest) (seen : failure.ahead ≤ utf8Length failure.rest)
    : (failure.position source).offset (utf8 source)
      = standFor source (utf8Length before + failure.ahead) := by
  rw [position, offset_eq whole seen, standFor]

/-- The position of a failure stands for a boundary, unless the reader failed within a
character.  Cases on the place: each tells the byte that the reader failed at, and whether that is
the first of its character.
-/
theorem Placed.isBoundary_iff {failure : Failure} (placed : failure.Placed source)
    : IsBoundary source ((failure.position source).offset (utf8 source))
      ↔ ¬ failure.Splits source := by
  cases placed with
  | @ahead defect c rest left =>
      obtain ⟨before, whole⟩ := left
      have seen : 1 ≤ utf8Length (c :: rest) :=
        Nat.le_trans c.utf8Size_pos (Nat.le_add_right _ _)
      rw [standFor_offset whole.symm seen]
      refine iff_of_true ((Position.isBoundary_offset_iff whole.symm c.utf8Size_pos).mpr rfl) ?_
      intro splits
      cases splits with
      | brokenOff _ ended => cases ended
      | badEscape _ _ last => cases last
  | @here defect rest stands =>
      obtain ⟨before, whole, single⟩ := stands
      rw [standFor_offset whole (Nat.zero_le _)]
      refine iff_of_true (Stands.isBoundary whole single) ?_
      intro splits
      cases splits with
      | @brokenOff first c _ ended _ last wide =>
          obtain rfl : rest = [] := ended
          rw [List.append_nil] at whole
          have narrow := single c (by rw [← whole, last, List.getLast?_concat])
          omega
      | badEscape _ _ last => cases last
  | brokenOff =>
      rw [standFor_offset (List.append_nil source).symm (Nat.le_refl _), Nat.add_zero]
      constructor
      · intro boundary splits
        cases splits with
        | brokenOff _ _ _ whole wide =>
            have narrow := (isBoundary_end_iff whole).mp boundary
            omega
        | badEscape defect => cases defect
      · intro apart
        rcases List.eq_nil_or_concat source with rfl | ⟨before, c, whole⟩
        · exact ⟨[], List.nil_prefix, rfl⟩
        · rw [List.concat_eq_append] at whole
          rw [isBoundary_end_iff whole]
          have positive := c.utf8Size_pos
          by_contra wide
          exact apart (.brokenOff rfl rfl rfl whole (by omega))
  | @badEscape rest left four =>
      obtain ⟨before, whole⟩ := left
      rw [standFor_offset whole.symm four]
      constructor
      · intro boundary splits
        cases splits with
        | brokenOff defect => cases defect
        | badEscape _ parts _ early late =>
            obtain rfl := parts
            have first := (isBoundary_four_iff whole.symm (by omega) late).mp boundary
            omega
      · intro apart
        obtain ⟨inside, c, after, rfl, lower, upper⟩ := exists_char_at (Nat.lt_of_succ_le four)
        rw [isBoundary_four_iff whole.symm lower upper]
        by_contra within
        exact apart (.badEscape rfl rfl rfl (by omega) upper)

end Json.Reader.Failure

-----------------------------------------------------------------------------------------
-- Ranges of refusals
-----------------------------------------------------------------------------------------

/-- In a text that fits into memory, the place of a failure is the one that sums of machine words
lead to, whether they are checked or not.
-/
theorem Document.failureSpan_of_words {source : List Char}
    (fits : (utf8 source).length < wordSize) (isChecked : Bool) (failure : Json.Reader.Failure)
    : (failure.position source).wordOffset? isChecked (utf8 source)
      = some (Document.failureSpan source failure).start :=
  Position.wordOffset?_after fits isChecked (failure.offset source)

/-- The range of a refusal lies in its text.  Of a text that is no object it is one of whole
characters. Of one that is no JSON it is empty, and stands between characters unless the reader
failed within one.
-/
theorem Document.read_span {source : String} {sourceId : Nat} {error : DocumentError}
    (refused : Document.read source sourceId = .error error)
    : error.span.start ≤ error.span.stop
      ∧ error.span.stop ≤ source.utf8ByteSize
      ∧ (error.kind = .notObject →
        (String.Pos.Raw.mk error.span.start).IsValid source
        ∧ (String.Pos.Raw.mk error.span.stop).IsValid source)
      ∧ (error.kind = .notJson →
        error.span.start = error.span.stop
        ∧ ∃ failure,
            Json.Reader.read source = .error failure
            ∧ ((String.Pos.Raw.mk error.span.start).IsValid source
              ↔ ¬ failure.Splits source.toList)) := by
  obtain ⟨⟨_, _, _, ⟨span, same, ordered, bounded⟩, _⟩, _⟩ := Document.read_refused refused
  obtain rfl : error.span = span := Option.some.inj same
  refine ⟨ordered, bounded, ?notObject, ?notJson⟩
  case notObject =>
    intro kind
    rw [isValid_iff_isBoundary, isValid_iff_isBoundary]
    rw [Document.read] at refused
    split at refused
    · cases refused
      cases kind
    · cases refused
    · cases refused
      exact ⟨⟨[], List.nil_prefix, rfl⟩, ⟨_, trimRight_starts _, rfl⟩⟩
  case notJson =>
    intro kind
    rw [isValid_iff_isBoundary]
    rw [Document.read] at refused
    split at refused
    · rename_i failure read
      cases refused
      exact ⟨rfl, failure, read, (readText_placed read).isBoundary_iff⟩
    · cases refused
    · cases refused
      cases kind

/-- A text refused at a character of several bytes is refused at the start of it.  Witness:
evaluation of the reading.
-/
theorem unexpectedCharacter_span
    : ∃ error,
        Document.read "[日" 0 = .error error
        ∧ error.span = { start := 1, stop := 1 }
        ∧ (String.Pos.Raw.mk error.span.start).IsValid "[日" := by
  have evaluated
      : (match Document.read "[日" 0, Json.Reader.read "[日" with
          | .error error, .error failure =>
              decide (error.kind = .notJson ∧ error.span = ⟨1, 1⟩ ∧ failure.ahead = 1)
          | _, _ => false)
        = true := by
    decide +kernel
  split at evaluated
  · rename_i error failure refused failed
    obtain ⟨kind, span, ahead⟩ := of_decide_eq_true evaluated
    obtain ⟨_, found, again, boundary⟩ := (Document.read_span refused).2.2.2 kind
    obtain rfl := Except.error.inj (failed.symm.trans again)
    refine ⟨error, refused, span, boundary.mpr ?_⟩
    intro splits
    cases splits with
    | brokenOff _ _ last => cases ahead.symm.trans last
    | badEscape _ _ last => cases ahead.symm.trans last
  · cases evaluated

/-- A text that breaks off within a string, after a character of several bytes, is refused at a byte
within that character.  Witness: evaluation of the reading.
-/
theorem brokenString_span
    : ∃ error,
        Document.read "\x7b\"日" 0 = .error error
        ∧ ¬ (String.Pos.Raw.mk error.span.start).IsValid "\x7b\"日" := by
  have evaluated
      : (match Document.read "\x7b\"日" 0 with
          | .error error => decide (error.span.start = 4)
          | .ok _ => false)
        = true := by
    decide +kernel
  split at evaluated
  · rename_i error refused
    refine ⟨error, refused, ?_⟩
    rw [isValid_iff_isBoundary, of_decide_eq_true evaluated]
    exact not_isBoundary_within ['\x7b', '"'] [] rfl (show 0 < 2 by decide) (by decide)
  · cases evaluated

end MessageCard
