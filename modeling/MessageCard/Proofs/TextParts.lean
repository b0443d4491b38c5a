import Mathlib.Data.List.DropRight
import Mathlib.Data.List.Infix
import MessageCard.Text.Blank
import MessageCard.Text.Search

/-! Parts of texts.  A mark is found in a text exactly where the text has it as a part.  A newline
with a mark behind it is found at the first line, after the first of all, that starts with the
mark.
-/

namespace MessageCard.Text

variable {mark text : List Char}

-----------------------------------------------------------------------------------------
-- Places of a mark
-----------------------------------------------------------------------------------------

/-- There is a place of a mark exactly when the mark is a part of the text, by induction over the
text.
-/
theorem splitAt?_isSome_iff : (splitAt? mark text).isSome ↔ mark <:+: text := by
  induction text with
  | nil =>
      rw [splitAt?, List.infix_nil, ← List.isEmpty_iff]
      split <;> simp_all
  | cons c rest ih =>
      rw [splitAt?, List.infix_cons_iff]
      split
      · rename_i here
        exact iff_of_true rfl (.inl (List.isPrefixOf_iff_prefix.mp here))
      · rename_i apart
        rw [Option.isSome_map, ih]
        refine ⟨.inr, fun found => found.resolve_left fun here => ?_⟩
        exact apart (List.isPrefixOf_iff_prefix.mpr here)

/-- A text is what stands before the mark, the mark, and what stands behind it. -/
theorem eq_of_splitAt? {before behind : List Char}
    (found : splitAt? mark text = some (before, behind))
    : text = before ++ mark ++ behind := by
  induction text generalizing before with
  | nil =>
      rw [splitAt?] at found
      split at found
      · rename_i empty
        cases found
        rw [List.isEmpty_iff.mp empty]
        rfl
      · cases found
  | cons c rest ih =>
      rw [splitAt?] at found
      split at found
      · rename_i here
        cases found
        exact (List.prefix_iff_eq_append.mp (List.isPrefixOf_iff_prefix.mp here)).symm
      · obtain ⟨⟨front, back⟩, later, same⟩ := Option.map_eq_some_iff.mp found
        cases same
        rw [ih later, List.cons_append, List.cons_append]

theorem hasPart_iff {part text : String}
    : hasPart part text = true ↔ part.toList <:+: text.toList :=
  splitAt?_isSome_iff

-----------------------------------------------------------------------------------------
-- Lines that start with a mark
-----------------------------------------------------------------------------------------

/-- A mark without the character that ends a line starts the line when it starts the text from
there, by induction over the line.
-/
theorem prefix_line_iff {line rest : List Char} {c : Char} (unbroken : c ∉ mark)
    : mark <+: line ++ c :: rest ↔ mark <+: line := by
  induction line generalizing mark with
  | nil =>
      cases mark with
      | nil => simp
      | cons first more =>
          refine iff_of_false (fun starts => ?_) (by simp)
          obtain ⟨rfl, _⟩ := List.cons_prefix_cons.mp starts
          exact unbroken (.head _)
  | cons other line ih =>
      cases mark with
      | nil => simp
      | cons first more =>
          rw [List.cons_append, List.cons_prefix_cons, List.cons_prefix_cons,
            ih fun listed => unbroken (.tail _ listed)]

/-- The characters of a line are passed over on the way to a newline. -/
theorem splitAt?_line {line : List Char} (whole : '\n' ∉ line) (rest : List Char)
    : splitAt? ('\n' :: mark) (line ++ rest)
      = (splitAt? ('\n' :: mark) rest).map fun (before, behind) => (line ++ before, behind) := by
  induction line with
  | nil => simp
  | cons c line ih =>
      obtain ⟨other, whole⟩ := not_or.mp (mt List.mem_cons.mpr whole)
      have apart : ¬ ('\n' :: mark).isPrefixOf (c :: (line ++ rest)) = true := by
        rw [List.isPrefixOf_iff_prefix, List.cons_prefix_cons]
        exact fun starts => other starts.1
      rw [List.cons_append, splitAt?, if_neg apart, ih whole, Option.map_map]
      rfl

/-- The first line behind another that starts with the mark is found.  By induction over the lines
before it.
-/
theorem splitAt?_lines {first : List Char} {lines : List (List Char)} (unbroken : '\n' ∉ mark)
    (whole : ∀ line ∈ first :: lines, '\n' ∉ line) (apart : ∀ line ∈ lines, ¬ mark <+: line)
    (behind : List Char)
    : splitAt? ('\n' :: mark) (['\n'].intercalate (first :: lines) ++ '\n' :: (mark ++ behind))
      = some (['\n'].intercalate (first :: lines), behind) := by
  induction lines generalizing first with
  | nil =>
      have here : ('\n' :: mark).isPrefixOf ('\n' :: (mark ++ behind)) = true := by simp
      rw [List.intercalate_singleton, splitAt?_line (whole first (.head _)), splitAt?, if_pos here]
      simp
  | cons line lines ih =>
      have next := ih (fun line listed => whole line (.tail _ listed))
        fun line listed => apart line (.tail _ listed)
      have other
          : ¬ ('\n' :: mark).isPrefixOf
              ('\n' :: (['\n'].intercalate (line :: lines) ++ '\n' :: (mark ++ behind))) := by
        rw [List.isPrefixOf_iff_prefix, List.cons_prefix_cons]
        rintro ⟨_, starts⟩
        refine apart line (.head _) ?_
        cases lines with
        | nil =>
            rw [List.intercalate_singleton] at starts
            exact (prefix_line_iff unbroken).mp starts
        | cons more lines =>
            rw [List.intercalate_cons_cons, List.append_assoc, List.append_assoc] at starts
            exact (prefix_line_iff unbroken).mp starts
      rw [List.intercalate_cons_cons, List.append_assoc, List.append_assoc,
        splitAt?_line (whole first (.head _)), List.singleton_append, splitAt?, if_neg other, next]
      simp

/-- What stands before the first newline belongs to the first line. -/
theorem splitOn_line {line : List Char} (whole : '\n' ∉ line) (rest : List Char)
    : (line ++ rest).splitOn '\n' = (rest.splitOn '\n').modifyHead (line ++ ·) := by
  induction line with
  | nil =>
      rw [List.nil_append]
      exact List.modifyHead_id.symm ▸ rfl
  | cons c line ih =>
      obtain ⟨other, whole⟩ := not_or.mp (mt List.mem_cons.mpr whole)
      have apart : ¬ (c == '\n') = true := fun same => other (beq_iff_eq.mp same).symm
      rw [List.cons_append, List.splitOn_cons_eq_if_modifyHead, if_neg apart, ih whole,
        List.modifyHead_modifyHead]
      rfl

/-- A newline with a mark behind it is a line, not the first, that starts with the mark. -/
theorem infix_newline_iff (unbroken : '\n' ∉ mark)
    : '\n' :: mark <:+: text ↔ ∃ line ∈ (text.splitOn '\n').tail, mark <+: line := by
  induction text with
  | nil => simp
  | cons c rest ih =>
      rw [List.infix_cons_iff, List.cons_prefix_cons, ih, List.splitOn_cons_eq_if_modifyHead]
      cases parts : rest.splitOn '\n' with
      | nil => exact (List.splitOn_ne_nil _ _ parts).elim
      | cons line more =>
          have starts : mark <+: rest ↔ mark <+: line := by
            have joined : ['\n'].intercalate (rest.splitOn '\n') = rest :=
              List.intercalate_splitOn '\n'
            rw [← joined, parts]
            cases more with
            | nil => rw [List.intercalate_singleton]
            | cons next more =>
                rw [List.intercalate_cons_cons, List.append_assoc]
                exact prefix_line_iff unbroken
          by_cases newline : c = '\n'
          · subst newline
            simp [starts]
          · simp [newline, Ne.symm newline]

-----------------------------------------------------------------------------------------
-- The ends of a text
-----------------------------------------------------------------------------------------

/-- Nothing is dropped before an item that stays. -/
theorem dropRight_append {α : Type} {test : α → Bool} {kept items : List α}
    (stays : ∀ last ∈ kept.getLast?, test last = false)
    : dropRight test (kept ++ items) = kept ++ dropRight test items := by
  have whole : kept.reverse.dropWhile test = kept.reverse := by
    cases turned : kept.reverse with
    | nil => rfl
    | cons last front =>
        have found : kept.getLast? = some last := by rw [← List.head?_reverse, turned]; rfl
        exact List.dropWhile_cons_of_neg (Bool.eq_false_iff.mp (stays last found))
  rw [dropRight, dropRight, List.reverse_append, List.dropWhile_append]
  split
  · rename_i none
    rw [whole, List.isEmpty_iff.mp none, List.reverse_reverse, List.reverse_nil, List.append_nil]
  · rw [List.reverse_append, List.reverse_reverse]

/-- A text holds a core with nothing but white space around it. -/
def IsPadded (core text : List Char) : Prop :=
  ∃ before after,
    (∀ c ∈ before, isBlank c = true) ∧ (∀ c ∈ after, isBlank c = true)
    ∧ text = before ++ core ++ after

/-- A text holds what trimming leaves of it. -/
theorem isPadded_trim (text : List Char) : IsPadded (trim text) text := by
  have right : trim text ++ (trimLeft text).rtakeWhile isBlank = trimLeft text :=
    List.rdropWhile_append_rtakeWhile
  refine ⟨text.takeWhile isBlank, (trimLeft text).rtakeWhile isBlank, ?_, ?_, ?_⟩
  · exact fun c listed => List.mem_takeWhile_imp listed
  · exact fun c listed => List.mem_rtakeWhile_imp listed
  · rw [List.append_assoc, right]
    exact List.takeWhile_append_dropWhile.symm

/-- White space around a core is trimmed off. -/
theorem IsPadded.trim_eq {core text : List Char} (padded : IsPadded core text)
    : trim text = trim core := by
  obtain ⟨before, after, front, back, rfl⟩ := padded
  have left : trimLeft (before ++ core ++ after) = trimLeft (core ++ after) := by
    rw [List.append_assoc]
    exact List.dropWhile_append_of_pos front
  have right (text : List Char) : trimRight (text ++ after) = trimRight text := by
    rw [trimRight, dropRight, List.reverse_append, List.dropWhile_append_of_pos, trimRight,
      dropRight]
    exact fun c listed => back c (List.mem_reverse.mp listed)
  rw [trim, left, trim, trimLeft, List.dropWhile_append]
  split
  · rename_i blank
    rw [trimLeft, List.isEmpty_iff.mp blank, ← List.append_nil after,
      List.dropWhile_append_of_pos back]
    rfl
  · exact right _

/-- Two texts are the same when trimmed exactly when they hold the same core. -/
theorem trim_eq_iff {text other : List Char}
    : trim text = trim other ↔ ∃ core, IsPadded core text ∧ IsPadded core other := by
  constructor
  · intro same
    exact ⟨trim text, isPadded_trim text, same ▸ isPadded_trim other⟩
  · rintro ⟨core, padded, otherPadded⟩
    rw [padded.trim_eq, otherPadded.trim_eq]

end MessageCard.Text
