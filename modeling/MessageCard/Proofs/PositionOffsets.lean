import Mathlib.Data.List.Induction
import Mathlib.Data.List.TakeWhile
import MessageCard.Proofs.ReportClasses

/-! Positions and the offsets that they stand for.  The position after some bytes of a text
stands for the offset of the last of them, or for the offset after them where they end a line.
That offset is a boundary of characters exactly when the last byte is the first of its character.
-/

namespace MessageCard

-----------------------------------------------------------------------------------------
-- Offsets of positions
-----------------------------------------------------------------------------------------

/-- The number of bytes after the last line that ends. -/
def columnOf (seen : List UInt8) : Nat :=
  (seen.reverse.takeWhile (· != newline)).length

theorem columnOf_concat (seen : List UInt8) (b : UInt8)
    : columnOf (seen ++ [b]) = if b = newline then 0 else columnOf seen + 1 := by
  rw [columnOf, List.reverse_append, List.reverse_singleton, List.singleton_append,
    List.takeWhile_cons]
  by_cases ending : b = newline <;> simp [ending, columnOf]

theorem columnOf_of_not_mem {seen : List UInt8} (inLine : newline ∉ seen)
    : columnOf seen = seen.length := by
  have each : ∀ b ∈ seen.reverse, (b != newline) = true := by
    intro b member
    simpa using fun same : b = newline => inLine (same ▸ List.mem_reverse.mp member)
  rw [columnOf, List.takeWhile_eq_self_iff.mpr each, List.length_reverse]

/-- A byte before a line that ends has no part in the column, by induction from the last byte on. -/
theorem columnOf_cons {b : UInt8} {seen : List UInt8} (ended : newline ∈ b :: seen)
    : columnOf (b :: seen) = columnOf seen := by
  induction seen using List.reverseRecOn with
  | nil =>
      obtain rfl : newline = b := List.mem_singleton.mp ended
      rfl
  | append_singleton seen last ih =>
      rw [← List.cons_append, columnOf_concat, columnOf_concat]
      split
      · rfl
      · rename_i other
        refine congrArg (· + 1) (ih ?_)
        rw [← List.cons_append, List.mem_append, List.mem_singleton] at ended
        exact ended.resolve_right (Ne.symm other)

theorem wholeLines_ne_nil {bytes : List UInt8} (filled : bytes ≠ []) : wholeLines bytes ≠ [] := by
  cases bytes with
  | nil => exact (filled rfl).elim
  | cons b rest =>
      rw [wholeLines]
      split
      · exact List.cons_ne_nil _ _
      · split <;> exact List.cons_ne_nil _ _

theorem lineStart_newline (rest : List UInt8) (lines : Nat)
    : lineStart (newline :: rest) (lines + 1) = lineStart rest lines + 1 := by
  rw [lineStart, wholeLines, if_pos rfl, List.take_succ_cons, List.map_cons]
  exact Nat.add_comm _ _

/-- A byte that ends no line belongs to the first of the lines after it. -/
theorem lineStart_cons {b : UInt8} {rest : List UInt8} (other : b ≠ newline) (filled : rest ≠ [])
    (lines : Nat)
    : lineStart (b :: rest) (lines + 1) = lineStart rest (lines + 1) + 1 := by
  obtain ⟨line, more, first⟩ := List.exists_cons_of_ne_nil (wholeLines_ne_nil filled)
  rw [lineStart, lineStart, wholeLines, if_neg other, first]
  simp only [List.take_succ_cons, List.map_cons, total, List.foldr_cons, List.length_cons]
  omega

/-- The bytes seen are those of the lines that they end, and those after the last of these lines.
By induction over the text.
-/
theorem lineStart_add_columnOf {bytes : List UInt8} {count : Nat} (within : count ≤ bytes.length)
    : lineStart bytes ((bytes.take count).count newline) + columnOf (bytes.take count)
      = count := by
  induction bytes generalizing count with
  | nil =>
      obtain rfl : count = 0 := Nat.le_zero.mp within
      rfl
  | cons b rest ih =>
      cases count with
      | zero => rfl
      | succ count =>
          have later := ih (Nat.le_of_succ_le_succ within)
          rw [List.take_succ_cons]
          by_cases ending : b = newline
          · subst ending
            rw [List.count_cons_self, lineStart_newline, columnOf_cons List.mem_cons_self]
            omega
          rw [List.count_cons_of_ne (by simpa using ending)]
          by_cases ended : newline ∈ rest.take count
          · have filled : rest ≠ [] := List.ne_nil_of_mem (List.mem_of_mem_take ended)
            obtain ⟨lines, counted⟩ :=
              Nat.exists_eq_add_one_of_ne_zero (Nat.ne_of_gt (List.count_pos_iff.mpr ended))
            rw [counted] at later ⊢
            rw [columnOf_cons (List.mem_cons_of_mem b ended), lineStart_cons ending filled]
            omega
          · have inLine : newline ∉ b :: rest.take count := by
              simpa [Ne.symm ending] using ended
            rw [List.count_eq_zero_of_not_mem ended, columnOf_of_not_mem inLine,
              List.length_cons, List.length_take,
              Nat.min_eq_left (Nat.le_of_succ_le_succ within)]
            exact Nat.zero_add _

/-- The position after some bytes stands for the offset of the last of them, or for the offset after
them where they end a line or are none.
-/
theorem Position.offset_after {bytes : List UInt8} {count : Nat} (within : count ≤ bytes.length)
    : (after bytes count).offset bytes
      = if columnOf (bytes.take count) = 0 then count else count - 1 := by
  have seen := lineStart_add_columnOf within
  have line : (after bytes count).line - 1 = (bytes.take count).count newline := by
    rw [after, Nat.add_sub_cancel_left]
  have column : (after bytes count).column = columnOf (bytes.take count) := rfl
  rw [offset, if_neg (by simp [after]), sum, line, column]
  split <;> omega

/-- The sum for a position after some bytes is no greater than the number of bytes. -/
theorem Position.sum_after_le (bytes : List UInt8) (count : Nat)
    : (after bytes count).sum bytes ≤ bytes.length := by
  have within : min count bytes.length ≤ bytes.length := Nat.min_le_right _ _
  have seen := lineStart_add_columnOf within
  have same : after bytes count = after bytes (min count bytes.length) := by
    rw [after, after, List.take_eq_take_min]
  have line
      : (after bytes (min count bytes.length)).line - 1
        = (bytes.take (min count bytes.length)).count newline := by
    rw [after, Nat.add_sub_cancel_left]
  have column
      : (after bytes (min count bytes.length)).column
        = columnOf (bytes.take (min count bytes.length)) := rfl
  rw [same, sum, line, column]
  omega

/-- So many of the bytes come after the last newline. -/
def Trailing (seen : List UInt8) (column : Nat) : Prop :=
  ∃ ended current,
    seen = ended ++ current
    ∧ (∀ b, ended.getLast? = some b → b = newline)
    ∧ newline ∉ current
    ∧ current.length = column

/-- The bytes after the last newline are counted back to it, or to the start of the text. -/
theorem Trailing.columnOf_eq {seen : List UInt8} {column : Nat} (trailing : Trailing seen column)
    : columnOf seen = column := by
  obtain ⟨ended, current, rfl, last, inLine, rfl⟩ := trailing
  rcases List.eq_nil_or_concat' ended with rfl | ⟨before, b, rfl⟩
  · exact columnOf_of_not_mem inLine
  · obtain rfl : b = newline := last b List.getLast?_concat
    have behind : ∀ other ∈ current.reverse, (other != newline) = true := by
      intro other member
      simpa using fun same : other = newline => inLine (same ▸ List.mem_reverse.mp member)
    rw [columnOf, List.reverse_append, List.takeWhile_append_of_pos behind, List.reverse_concat,
      List.takeWhile_cons_of_neg (by simp), List.append_nil, List.length_reverse]

/-- Any bytes end a line somewhere or are all of one, by induction from the last byte on. -/
theorem trailing_columnOf (seen : List UInt8) : Trailing seen (columnOf seen) := by
  induction seen using List.reverseRecOn with
  | nil => exact ⟨[], [], rfl, nofun, List.not_mem_nil, rfl⟩
  | append_singleton seen b ih =>
      rw [columnOf_concat]
      split
      · rename_i ending
        refine ⟨seen ++ [b], [], (List.append_nil _).symm, ?_, List.not_mem_nil, rfl⟩
        intro other last
        rw [List.getLast?_concat] at last
        exact (Option.some.inj last).symm.trans ending
      · rename_i other
        obtain ⟨ended, current, rfl, last, inLine, length⟩ := ih
        refine ⟨ended, current ++ [b], List.append_assoc _ _ _, last, ?_, ?_⟩
        · simpa [Ne.symm other] using inLine
        · rw [List.length_append, length, List.length_singleton]

-----------------------------------------------------------------------------------------
-- Sums in machine words
-----------------------------------------------------------------------------------------

theorem wordSum?_of_fits {sum : Nat} (fits : sum < wordSize) (isChecked : Bool)
    : wordSum? isChecked sum = some sum :=
  if_pos fits

/-- Only a program that checks its sums is ended by one, and this is too great for a word. -/
theorem wordSum?_eq_none_iff {isChecked : Bool} {sum : Nat}
    : wordSum? isChecked sum = none ↔ isChecked = true ∧ wordSize ≤ sum := by
  rw [wordSum?]
  split
  · rename_i fits
    exact iff_of_false nofun fun ⟨_, exceeds⟩ => absurd fits (Nat.not_lt.mpr exceeds)
  · rename_i exceeds
    rw [Nat.not_lt] at exceeds
    cases isChecked with
    | true => exact iff_of_true rfl ⟨rfl, exceeds⟩
    | false => exact iff_of_false nofun nofun

namespace Position

variable {bytes : List UInt8} {position : Position} {isChecked : Bool}

theorem wordOffset?_eq_none_iff
    : position.wordOffset? isChecked bytes = none
      ↔ isChecked = true ∧ position.line ≠ 0 ∧ wordSize ≤ position.sum bytes := by
  rw [wordOffset?]
  split
  · rename_i start
    exact iff_of_false nofun fun ⟨_, line, _⟩ => line start
  · rename_i line
    rw [Option.map_eq_none_iff, wordSum?_eq_none_iff, and_iff_right line]

/-- An offset is within the text, whatever was left of the sum. -/
theorem wordOffset?_le {offset : Nat} (found : position.wordOffset? isChecked bytes = some offset)
    : offset ≤ bytes.length := by
  rw [wordOffset?] at found
  split at found
  · cases found
    exact Nat.le_refl _
  · obtain ⟨_, _, rfl⟩ := Option.map_eq_some_iff.mp found
    exact Nat.min_le_right _ _

/-- Where the sum fits into a word, its offset is found with checks and without them. -/
theorem wordOffset?_of_fits (fits : position.sum bytes < wordSize)
    : position.wordOffset? isChecked bytes = some (position.offset bytes) := by
  rw [wordOffset?, offset]
  split
  · rfl
  · rw [wordSum?_of_fits fits]
    rfl

/-- Where a reader stands in a text that fits into memory, no sum is too great for a word. -/
theorem wordOffset?_after (fits : bytes.length < wordSize) (isChecked : Bool) (count : Nat)
    : (after bytes count).wordOffset? isChecked bytes = some ((after bytes count).offset bytes) :=
  wordOffset?_of_fits (Nat.lt_of_le_of_lt (sum_after_le bytes count) fits)

/-- A position stands for an offset in the text, whatever its numbers: a program that does not check
its sums always finds one, and one that does is ended exactly where the sum is too great for a word.
In a text that fits into memory, the line and the column to which a reader has come after some bytes
stand for the last of these bytes, or for the place itself where a line starts.
-/
theorem offset_inverts (bytes : List UInt8)
    : (∀ position : Position,
        (∃ offset, position.wordOffset? false bytes = some offset)
        ∧ (position.wordOffset? true bytes = none
          ↔ position.line ≠ 0
            ∧ wordSize ≤ lineStart bytes (position.line - 1) + (position.column - 1))
        ∧ ∀ isChecked offset,
            position.wordOffset? isChecked bytes = some offset → offset ≤ bytes.length)
      ∧ (bytes.length < wordSize
        → ∀ isChecked count line column,
            count ≤ bytes.length
            → line = 1 + (bytes.take count).count newline
            → Trailing (bytes.take count) column
            → (0 < column
              → wordOffset? isChecked bytes { line, column } = some (count - 1))
              ∧ (column = 0 → wordOffset? isChecked bytes { line, column } = some count))
      ∧ ∀ count,
          (after bytes count).line = 1 + (bytes.take count).count newline
          ∧ Trailing (bytes.take count) (after bytes count).column := by
  refine ⟨?bound, ?inverts, fun count => ⟨rfl, trailing_columnOf _⟩⟩
  case bound =>
    intro position
    refine ⟨Option.ne_none_iff_exists'.mp ?_, ?_, fun _ _ => wordOffset?_le⟩
    · rw [ne_eq, wordOffset?_eq_none_iff]
      exact nofun
    · rw [wordOffset?_eq_none_iff, and_iff_right rfl, sum]
  case inverts =>
    rintro fits isChecked count line column within rfl trailing
    have reached := offset_after within
    have found := wordOffset?_after fits isChecked count
    have here
        : after bytes count = { line := 1 + (bytes.take count).count newline, column } :=
      congrArg (Position.mk _) trailing.columnOf_eq
    rw [here, trailing.columnOf_eq] at reached
    rw [here, reached] at found
    constructor
    · intro inside
      rw [found, if_neg (Nat.ne_of_gt inside)]
    · intro start
      rw [found, if_pos start]

/-- Between the bytes of a line ending, at the start of a line, and at the end of a text without a
final newline.
-/
theorem crossing_inverts
    : let bytes : List UInt8 := utf8 "\x7b\r\n\r\né".toList
      bytes.length < wordSize
      ∧ wordOffset? true bytes { line := 1, column := 2 } = some 1
      ∧ wordOffset? true bytes { line := 2, column := 0 } = some 3
      ∧ wordOffset? true bytes { line := 3, column := 2 } = some 6 := by
  obtain ⟨_, inverts, _⟩ := offset_inverts (utf8 "\x7b\r\n\r\né".toList)
  have fits : (utf8 "\x7b\r\n\r\né".toList).length < wordSize := by decide
  have ends (b : UInt8) (last : [newline].getLast? = some b) : b = newline :=
    (Option.some.inj last).symm
  refine ⟨fits, ?_, ?_, ?_⟩
  · exact (inverts fits true 2 1 2 (by decide) rfl
      ⟨[], [123, 13], rfl, nofun, by decide, rfl⟩).1 (by decide)
  · exact (inverts fits true 3 2 0 (by decide) rfl
      ⟨[123, 13, newline], [], rfl, ends, List.not_mem_nil, rfl⟩).2 rfl
  · exact (inverts fits true 7 3 2 (by decide) rfl
      ⟨[123, 13, newline, 13, newline], [195, 169], rfl, ends, by decide, rfl⟩).1 (by decide)

/-- The sum for a column that is the greatest word ends the program, or leaves the second byte. -/
example
    : let bytes := utf8 "ab\ncd".toList
      let position : Position := { line := 2, column := wordSize - 1 }
      position.wordOffset? true bytes = none ∧ position.wordOffset? false bytes = some 1 := by
  decide

end Position

-----------------------------------------------------------------------------------------
-- Boundaries of characters
-----------------------------------------------------------------------------------------

/-- Some of the first characters of the text end at the offset. -/
def IsBoundary (text : List Char) (offset : Nat) : Prop :=
  ∃ before, before <+: text ∧ utf8Length before = offset

theorem isValid_iff_isBoundary {source : String} {offset : Nat}
    : (String.Pos.Raw.mk offset).IsValid source ↔ IsBoundary source.toList offset := by
  have size (text : List Char) : (String.ofList text).utf8ByteSize = utf8Length text := by
    rw [← utf8Length_toList, String.toList_ofList]
  rw [String.Pos.Raw.isValid_iff_exists_take_toList]
  constructor
  · rintro ⟨count, same⟩
    exact ⟨source.toList.take count, List.take_prefix _ _, by rw [← size, ← same]⟩
  · rintro ⟨before, first, rfl⟩
    exact ⟨before.length, by rw [← List.prefix_iff_eq_take.mp first, size]⟩

variable {text before after : List Char} {c : Char}

theorem utf8Length_cons (c : Char) (text : List Char)
    : utf8Length (c :: text) = c.utf8Size + utf8Length text :=
  rfl

theorem utf8Length_concat (text : List Char) (c : Char)
    : utf8Length (text ++ [c]) = utf8Length text + c.utf8Size := by
  rw [utf8Length_append, utf8Length_cons]
  rfl

/-- No boundary is strictly within a character: what ends there ends before the character or has
all of it.
-/
theorem not_isBoundary_within (before after : List Char) {count : Nat}
    (whole : text = before ++ c :: after)
    (positive : 0 < count) (less : count < c.utf8Size)
    : ¬ IsBoundary text (utf8Length before + count) := by
  rintro ⟨other, first, same⟩
  have upTo : before ++ [c] <+: text := ⟨after, by rw [whole]; simp⟩
  rcases List.prefix_or_prefix_of_prefix first upTo with shorter | longer
  · rcases List.prefix_concat_iff.mp shorter with rfl | within
    · rw [utf8Length_concat] at same
      omega
    · have := utf8Length_mono within
      omega
  · have := utf8Length_mono longer
    rw [utf8Length_concat] at this
    omega

/-- A byte of a character that ends a line is all of the character: the first bytes of longer
ones are greater, and so are the bytes after them.
-/
theorem newline_utf8EncodeChar {place : Nat}
    (ending : (String.utf8EncodeChar c)[place]? = some newline)
    : place = 0 ∧ c.utf8Size = 1 := by
  obtain ⟨inside, byte⟩ := List.getElem?_eq_some_iff.mp ending
  have first : place = 0 := by
    have start : (String.utf8EncodeChar c)[place].IsUTF8FirstByte := byte ▸ Or.inl rfl
    exact UInt8.isUTF8FirstByte_getElem_utf8EncodeChar.mp start
  subst first
  have greater (n : Nat) (below : n < 256) (above : 10 < n)
      : [UInt8.ofNat n].head? ≠ some newline := by
    intro same
    have value : n % 256 = 10 := congrArg UInt8.toNat (Option.some.inj same)
    omega
  refine ⟨rfl, Char.utf8Size_eq_one_iff.mpr ?_⟩
  rw [← List.head?_eq_getElem?] at ending
  simp only [String.utf8EncodeChar] at ending
  split at ending
  · rename_i narrow
    exact UInt32.le_iff_toNat_le.mpr narrow
  · split at ending
    · exact (greater _ (by omega) (by omega) ending).elim
    · split at ending
      · exact (greater _ (by omega) (by omega) ending).elim
      · exact (greater _ (by omega) (by omega) ending).elim

theorem utf8_append (text other : List Char) : utf8 (text ++ other) = utf8 text ++ utf8 other :=
  List.flatMap_append

/-- The position after some bytes of a text, the last of them in a character, stands for a boundary
exactly when that byte is the first of the character.
-/
theorem Position.isBoundary_offset_iff {count : Nat} (whole : text = before ++ c :: after)
    (within : count < c.utf8Size)
    : IsBoundary text
          ((Position.after (utf8 text) (utf8Length before + (count + 1))).offset (utf8 text))
      ↔ count = 0 := by
  obtain ⟨b, last⟩ : ∃ b, (String.utf8EncodeChar c)[count]? = some b :=
    ⟨_, List.getElem?_eq_getElem (by rwa [String.length_utf8EncodeChar])⟩
  have taken
      : (utf8 text).take (utf8Length before + (count + 1))
        = (utf8 before ++ (String.utf8EncodeChar c).take count) ++ [b] := by
    have bytes : utf8 text = utf8 before ++ (String.utf8EncodeChar c ++ utf8 after) := by
      rw [whole, utf8_append]
      rfl
    rw [bytes, ← utf8_length, List.take_length_add_append, List.take_append_of_le_length
      (by rw [String.length_utf8EncodeChar]; omega), List.take_add_one, last, List.append_assoc]
    rfl
  have size : utf8Length before + (count + 1) ≤ (utf8 text).length := by
    rw [utf8_length, whole, utf8Length_append, utf8Length_cons]
    omega
  rw [offset_after size, taken, columnOf_concat]
  by_cases ending : b = newline
  · obtain ⟨rfl, single⟩ := newline_utf8EncodeChar (ending ▸ last)
    have atEnd : before ++ [c] <+: text := ⟨after, by rw [whole]; simp⟩
    rw [if_pos ending, if_pos rfl, Nat.zero_add, ← single, ← utf8Length_concat]
    exact iff_of_true ⟨before ++ [c], atEnd, rfl⟩ rfl
  · rw [if_neg ending, if_neg (Nat.succ_ne_zero _), ← Nat.add_assoc, Nat.add_sub_cancel]
    rcases Nat.eq_zero_or_pos count with rfl | positive
    · exact iff_of_true ⟨before, ⟨c :: after, whole.symm⟩, rfl⟩ rfl
    · exact iff_of_false (not_isBoundary_within _ _ whole positive within) (Nat.ne_of_gt positive)

end MessageCard
