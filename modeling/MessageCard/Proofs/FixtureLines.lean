import MessageCard.Fixture.Basic
import MessageCard.Proofs.TextParts

/-! Fixtures as lines.  A file that is put together from lines of settings between two lines of
dashes, and a card behind them, is split into those lines and that card, when there is a line of
settings at all: the line right behind the opening dashes is never taken for the closing ones.
-/

namespace MessageCard.Fixture

-----------------------------------------------------------------------------------------
-- Files of lines
-----------------------------------------------------------------------------------------

/-- How a line ends: with a newline, or with a carriage return and a newline. -/
inductive LineEnd
  | newline
  | returned
deriving DecidableEq

namespace LineEnd

/-- The carriage return before the newline, if there is one. -/
def returns : LineEnd → List Char
  | newline => []
  | returned => ['\r']

/-- The characters of the line end. -/
def chars (ending : LineEnd) : List Char :=
  ending.returns ++ ['\n']

end LineEnd

/-- A file: byte-order marks, the lines of settings between two lines of dashes, and the card. -/
def compose (marks : Nat) (ending : LineEnd) (lines : List (List Char)) (card : List Char)
    : List Char :=
  List.replicate marks '\ufeff'
    ++ (dashes :: (lines ++ [dashes])).flatMap (· ++ ending.chars) ++ card

/-- A line that may stand among the settings. -/
structure IsSettingsLine (line : List Char) : Prop where
  unbroken : '\n' ∉ line
  unreturned : '\r' ∉ line
  undashed : ¬ dashes <+: line

/-- A text without the byte-order marks at its start. -/
def unmarked (text : List Char) : List Char :=
  text.dropWhile (· == '\ufeff')

/-- The lines that may close the settings: those behind the first, but not the one right behind a
first line of dashes alone.
-/
def closers (text : List Char) : List (List Char) :=
  match text.splitOn '\n' with
  | [] => []
  | first :: later =>
      if first = dashes ∨ first = dashes ++ ['\r'] then later.tail else later

variable {text rest card : List Char} {ending : LineEnd} {lines : List (List Char)}

theorem unmarked_replicate (marks : Nat) (text : List Char)
    : unmarked (List.replicate marks '\ufeff' ++ text) = unmarked text := by
  induction marks with
  | zero => rfl
  | succ marks ih => exact ih

theorem newline_not_mem_dashes : '\n' ∉ dashes := by decide

theorem newline_not_mem_opening (ending : LineEnd) : '\n' ∉ dashes ++ ending.returns := by
  cases ending <;> decide

-----------------------------------------------------------------------------------------
-- Opening and closing
-----------------------------------------------------------------------------------------

/-- The settings of a text that opens with dashes end at the first place of closing ones. -/
theorem split_eq (opens : unmarked text = dashes ++ rest)
    : split text
      = match Text.splitAt? ('\n' :: dashes) (afterLineEnd rest) with
        | some (settings, card) => .ok (Text.dropRight (· == '\r') settings, card)
        | none => .error .noClosing := by
  have starts : dashes.isPrefixOf (dashes ++ rest) = true := by simp
  rw [split]
  simp only [unmarked] at opens
  rw [opens]
  exact if_pos starts

theorem split_noOpening_iff : split text = .error .noOpening ↔ ¬ dashes <+: unmarked text := by
  constructor
  · rintro refused ⟨rest, opens⟩
    rw [split_eq opens.symm] at refused
    split at refused <;> cases refused
  · intro apart
    rw [split]
    exact if_neg fun starts => apart (List.isPrefixOf_iff_prefix.mp starts)

/-- The lines that may close the settings are those behind the first of what follows the opening. -/
theorem closers_eq (rest : List Char)
    : closers (dashes ++ rest) = ((afterLineEnd rest).splitOn '\n').tail := by
  rw [afterLineEnd.eq_def]
  split
  · rename_i more
    rw [closers, List.splitOn_append_cons_self_of_not_mem newline_not_mem_dashes]
    rfl
  · rename_i more
    have parted
        : dashes ++ '\r' :: '\n' :: more = dashes ++ LineEnd.returned.returns ++ '\n' :: more :=
      rfl
    rw [closers, parted,
      List.splitOn_append_cons_self_of_not_mem (newline_not_mem_opening .returned)]
    rfl
  · rename_i bare returned
    have joined : ['\n'].intercalate (rest.splitOn '\n') = rest := List.intercalate_splitOn '\n'
    rw [closers, Text.splitOn_line newline_not_mem_dashes]
    cases parts : rest.splitOn '\n' with
    | nil => exact (List.splitOn_ne_nil _ _ parts).elim
    | cons first later =>
        cases later with
        | nil => exact ite_self _
        | cons next more =>
            rw [parts, List.intercalate_cons_cons, List.append_assoc] at joined
            refine if_neg ?_
            rintro (same | same)
            · obtain rfl := List.append_right_eq_self.mp same
              exact bare _ joined.symm
            · obtain rfl := List.append_cancel_left same
              exact returned _ joined.symm

/-- No closing dashes are found exactly where no line may close the settings. -/
theorem split_noClosing_iff
    : split text = .error .noClosing
      ↔ dashes <+: unmarked text ∧ ∀ line ∈ closers (unmarked text), ¬ dashes <+: line := by
  by_cases opens : dashes <+: unmarked text
  · obtain ⟨rest, opens⟩ := opens
    have found : (Text.splitAt? ('\n' :: dashes) (afterLineEnd rest)).isSome
        ↔ ∃ line ∈ closers (unmarked text), dashes <+: line := by
      rw [Text.splitAt?_isSome_iff, Text.infix_newline_iff newline_not_mem_dashes, ← opens,
        closers_eq]
    rw [split_eq opens.symm, and_iff_right ⟨rest, opens⟩]
    cases parts : Text.splitAt? ('\n' :: dashes) (afterLineEnd rest) with
    | none =>
        rw [parts] at found
        refine iff_of_true rfl fun line listed starts => ?_
        cases found.mpr ⟨line, listed, starts⟩
    | some parts' =>
        rw [parts] at found
        obtain ⟨line, listed, starts⟩ := found.mp rfl
        exact iff_of_false nofun fun none => none line listed starts
  · rw [split_noOpening_iff.mpr opens]
    exact iff_of_false nofun fun both => opens both.1

/-- Every line that may close the settings is behind the first. -/
theorem closers_subset : closers text ⊆ (text.splitOn '\n').tail := by
  rw [closers]
  split
  · rename_i none
    exact (List.splitOn_ne_nil _ _ none).elim
  · rename_i first later parts
    rw [parts]
    split
    · exact List.tail_subset later
    · exact List.Subset.refl later

-----------------------------------------------------------------------------------------
-- Composed files
-----------------------------------------------------------------------------------------

theorem afterLineEnd_chars (ending : LineEnd) (rest : List Char)
    : afterLineEnd (ending.chars ++ rest) = rest := by
  cases ending <;> rfl

theorem chars_append (ending : LineEnd) (rest : List Char)
    : ending.chars ++ rest = ending.returns ++ '\n' :: rest := by
  rw [LineEnd.chars, List.append_assoc, List.singleton_append]

/-- A composed file opens with dashes, and closing dashes stand behind its lines. -/
theorem unmarked_compose (marks : Nat) (ending : LineEnd) (lines : List (List Char))
    (card : List Char)
    : unmarked (compose marks ending lines card)
      = dashes
          ++ (ending.chars
            ++ (lines.flatMap (· ++ ending.chars) ++ (dashes ++ (ending.chars ++ card)))) := by
  rw [compose, List.append_assoc, unmarked_replicate]
  simp only [List.flatMap_cons, List.flatMap_append, List.flatMap_nil, List.append_nil,
    List.append_assoc]
  rfl

/-- Ended lines are joined lines with one more end behind them. -/
theorem flatMap_ended (ending : LineEnd) (first : List Char) (lines : List (List Char))
    : (first :: lines).flatMap (· ++ ending.chars)
      = ending.chars.intercalate (first :: lines) ++ ending.chars := by
  induction lines generalizing first with
  | nil => simp
  | cons next lines ih =>
      rw [List.flatMap_cons, ih, List.intercalate_cons_cons]
      simp only [List.append_assoc]

/-- Joined lines stand between newlines with their carriage returns. -/
theorem intercalate_returned (ending : LineEnd) (first : List Char) (lines : List (List Char))
    : ['\n'].intercalate ((first ++ ending.returns) :: lines.map (· ++ ending.returns))
      = ending.chars.intercalate (first :: lines) ++ ending.returns := by
  induction lines generalizing first with
  | nil => simp
  | cons next lines ih =>
      rw [List.map_cons, List.intercalate_cons_cons, ih, List.intercalate_cons_cons, LineEnd.chars]
      simp only [List.append_assoc]

/-- Joined lines do not end with a carriage return. -/
theorem getLast?_intercalate {first : List Char}
    (clean : ∀ line ∈ first :: lines, '\r' ∉ line)
    : ∀ last ∈ (ending.chars.intercalate (first :: lines)).getLast?, (last == '\r') = false := by
  induction lines generalizing first with
  | nil =>
      intro last found
      rw [List.intercalate_singleton] at found
      refine beq_false_of_ne fun same => clean first (.head _) ?_
      exact same ▸ List.mem_of_getLast? found
  | cons next lines ih =>
      intro last found
      rw [List.intercalate_cons_cons, List.getLast?_append, Option.mem_def] at found
      cases later : (ending.chars.intercalate (next :: lines)).getLast? with
      | some other =>
          rw [later] at found
          cases found
          exact ih (fun line listed => clean line (.tail _ listed)) _ later
      | none =>
          rw [later, LineEnd.chars, ← List.append_assoc, List.getLast?_concat] at found
          cases found
          rfl

/-- A line of settings with its carriage return is a line, and does not start with dashes. -/
theorem IsSettingsLine.returned {line : List Char} (clean : IsSettingsLine line) (ending : LineEnd)
    : '\n' ∉ line ++ ending.returns ∧ ¬ dashes <+: line ++ ending.returns := by
  obtain ⟨unbroken, _, undashed⟩ := clean
  cases ending with
  | newline =>
      rw [LineEnd.returns, List.append_nil]
      exact ⟨unbroken, undashed⟩
  | returned =>
      refine ⟨by simp [LineEnd.returns, unbroken], fun starts => undashed ?_⟩
      exact (Text.prefix_line_iff (by decide)).mp starts

/-- A composed file with lines of settings is split into those lines and its card. -/
theorem split_compose_cons (marks : Nat) (ending : LineEnd) {first : List Char}
    (clean : ∀ line ∈ first :: lines, IsSettingsLine line) (card : List Char)
    : split (compose marks ending (first :: lines) card)
      = .ok (ending.chars.intercalate (first :: lines), ending.chars ++ card) := by
  have whole : ∀ row ∈ (first ++ ending.returns) :: lines.map (· ++ ending.returns),
      '\n' ∉ row ∧ ¬ dashes <+: row := by
    intro row listed
    rw [← List.map_cons (f := (· ++ ending.returns))] at listed
    obtain ⟨line, member, rfl⟩ := List.mem_map.mp listed
    exact (clean line member).returned ending
  have found := Text.splitAt?_lines newline_not_mem_dashes (fun row listed => (whole row listed).1)
    (fun row listed => (whole row (.tail _ listed)).2) (ending.chars ++ card)
  have stays
      : ∀ last ∈ (ending.chars.intercalate (first :: lines)).getLast?, (last == '\r') = false :=
    getLast?_intercalate fun line listed => (clean line listed).unreturned
  rw [split_eq (unmarked_compose marks ending (first :: lines) card), afterLineEnd_chars,
    flatMap_ended, List.append_assoc, chars_append ending (dashes ++ _), ← List.append_assoc,
    ← intercalate_returned, found, intercalate_returned]
  simp only [Text.dropRight_append stays]
  cases ending <;> simp [LineEnd.returns, Text.dropRight]

-----------------------------------------------------------------------------------------
-- Files without lines of settings
-----------------------------------------------------------------------------------------

section

variable {tail : List Char} (ends : ∀ c ∈ tail.head?, c = '\n' ∨ c = '\r')

include ends

/-- What is behind the dashes starts with no character of such a kind. -/
theorem not_starts (test : Char → Bool) (newline : test '\n' = false) (returned : test '\r' = false)
    : tail.takeWhile test = [] ∧ tail.dropWhile test = tail := by
  cases tail with
  | nil => exact ⟨rfl, rfl⟩
  | cons c rest =>
      rcases ends c rfl with rfl | rfl
      · exact ⟨List.takeWhile_cons_of_neg (by simp [newline]),
          List.dropWhile_cons_of_neg (by simp [newline])⟩
      · exact ⟨List.takeWhile_cons_of_neg (by simp [returned]),
          List.dropWhile_cons_of_neg (by simp [returned])⟩

/-- Dashes are read as the name of a setting. -/
theorem name_dashes : Toml.name (dashes ++ tail) = some ("---", tail) := by
  obtain ⟨nothing, kept⟩ := not_starts ends Toml.isNameCharacter rfl rfl
  have named : ∀ c ∈ dashes, Toml.isNameCharacter c = true := List.all_eq_true.mp rfl
  have letters : (dashes ++ tail).takeWhile Toml.isNameCharacter = dashes := by
    rw [List.takeWhile_append_of_pos named, nothing, List.append_nil]
  have rest : (dashes ++ tail).dropWhile Toml.isNameCharacter = tail := by
    rw [List.dropWhile_append_of_pos named, kept]
  change (if ((dashes ++ tail).takeWhile Toml.isNameCharacter).isEmpty then none
    else some (String.ofList ((dashes ++ tail).takeWhile Toml.isNameCharacter),
      (dashes ++ tail).dropWhile Toml.isNameCharacter)) = _
  rw [letters, rest]
  rfl

theorem key_dashes
    : Toml.key (dashes ++ tail) = some ({ path := [], name := "---" }, tail) := by
  have space : Toml.skipSpace (dashes ++ tail) = dashes ++ tail := rfl
  have kept : Toml.skipSpace tail = tail := (not_starts ends Toml.isSpace rfl rfl).2
  have names (bound : Nat) : Toml.names (bound + 1) (dashes ++ tail) = some (["---"], tail) := by
    rw [Toml.names, space, name_dashes ends]
    simp only [Option.bind_eq_bind, Option.bind_some, kept]
    split
    · rcases ends '.' rfl with same | same <;> cases same
    · rfl
  rw [Toml.key, Toml.nestingLimit, names]
  rfl

/-- A name without a sign of equality behind it is no setting. -/
theorem ofText_dashes : Toml.ofText (dashes ++ tail) = none := by
  have space : Toml.skipSpace (dashes ++ tail) = dashes ++ tail := rfl
  have entry : Toml.entry (dashes ++ tail) = none := by
    rw [Toml.entry, key_dashes ends]
    split
    · rename_i same
      cases same
      rcases ends '=' rfl with same | same <;> cases same
    · rfl
  have statement : Toml.statement (dashes ++ tail) = none := by
    change Toml.mapScan some (Toml.entry (dashes ++ tail)) = none
    rw [entry]
    rfl
  have statements (bound : Nat) : Toml.statements (bound + 1) (dashes ++ tail) = none := by
    rw [Toml.statements, space]
    change (Toml.statement (dashes ++ tail)).bind _ = none
    rw [statement]
    rfl
  change (Toml.statements _ (dashes ++ tail)).bind _ = none
  rw [statements]
  rfl

end

theorem closers_compose_nil (marks : Nat) (ending : LineEnd) (card : List Char)
    : closers (unmarked (compose marks ending [] card)) = card.splitOn '\n' := by
  rw [unmarked_compose, closers_eq, afterLineEnd_chars, List.flatMap_nil, List.nil_append,
    chars_append, ← List.append_assoc,
    List.splitOn_append_cons_self_of_not_mem (newline_not_mem_opening ending)]
  rfl

/-- A composed file without lines of settings is refused.  The closing dashes are found at a line of
the card if at any, and the dashes that were meant to close are read as a setting.
-/
theorem read_compose_nil (marks : Nat) (ending : LineEnd) (card : List Char)
    : read (String.ofList (compose marks ending [] card))
      = .error
          (if (card.splitOn '\n').any dashes.isPrefixOf then .badSettings else .noClosing) := by
  have opens := unmarked_compose marks ending [] card
  have parts := split_eq opens
  have unclosed : split (compose marks ending [] card) = .error .noClosing ↔ _ :=
    split_noClosing_iff
  rw [closers_compose_nil, opens, and_iff_right (List.prefix_append _ _)] at unclosed
  rw [afterLineEnd_chars, List.flatMap_nil, List.nil_append,
    Text.splitAt?_line newline_not_mem_dashes] at parts
  rw [read, String.toList_ofList]
  cases found : Text.splitAt? ('\n' :: dashes) (ending.chars ++ card) with
  | none =>
      rw [found] at parts
      have apart : ¬ (card.splitOn '\n').any dashes.isPrefixOf = true := by
        rw [List.any_eq_true]
        rintro ⟨line, listed, starts⟩
        exact unclosed.mp parts line listed (List.isPrefixOf_iff_prefix.mp starts)
      rw [parts, if_neg apart]
      rfl
  | some between =>
      obtain ⟨before, behind⟩ := between
      rw [found] at parts
      have closed : (card.splitOn '\n').any dashes.isPrefixOf = true := by
        by_contra apart
        rw [List.any_eq_true] at apart
        have refused := unclosed.mpr fun line listed starts =>
          apart ⟨line, listed, List.isPrefixOf_iff_prefix.mpr starts⟩
        cases parts.symm.trans refused
      have settings
          : Text.dropRight (· == '\r') (dashes ++ before)
            = dashes ++ Text.dropRight (· == '\r') before := by
        apply Text.dropRight_append
        intro last listed
        obtain rfl : '-' = last := Option.some.inj listed
        rfl
      have ends : ∀ c ∈ (Text.dropRight (· == '\r') before).head?, c = '\n' ∨ c = '\r' := by
        intro c first
        obtain ⟨more, kept⟩ := List.head?_eq_some_iff.mp first
        obtain ⟨dropped, whole⟩ := List.rdropWhile_prefix (· == '\r') before
        have kept : List.rdropWhile (· == '\r') before = c :: more := kept
        have text := Text.eq_of_splitAt? found
        rw [← whole, kept] at text
        cases ending with
        | newline => exact .inl (List.cons.inj text).1.symm
        | returned => exact .inr (List.cons.inj text).1.symm
      have refused : expectation? (dashes ++ Text.dropRight (· == '\r') before) = none := by
        rw [expectation?, ofText_dashes ends]
        rfl
      rw [parts, if_pos closed]
      simp only [Option.map_some, settings, refused]

-----------------------------------------------------------------------------------------
-- Reading composed files
-----------------------------------------------------------------------------------------

/-- Faults other than those of the settings come from the lines of dashes. -/
theorem read_error_iff {fault : Fault} (other : fault ≠ .badSettings)
    : read (String.ofList text) = .error fault ↔ split text = .error fault := by
  rw [read, String.toList_ofList]
  split
  · rename_i same
    rw [same]
    exact ⟨fun found => congrArg _ (Except.error.inj found),
      fun found => congrArg _ (Except.error.inj found)⟩
  · rename_i settings card parts
    rw [parts]
    refine iff_of_false ?_ nofun
    split
    · exact nofun
    · exact fun same => other (Except.error.inj same).symm

/-- A file put together from lines of settings and a card is read as these, when it has a line of
settings; without one it is refused.  Any file is refused that does not open with dashes behind
its byte-order marks, and any with no later line of dashes; exactly, any where none of those lines
closes the settings.
-/
theorem read_compose (marks : Nat) (ending : LineEnd) {lines : List (List Char)}
    (clean : ∀ line ∈ lines, IsSettingsLine line) (card : List Char)
    : (lines ≠ []
        → split (compose marks ending lines card)
            = .ok (ending.chars.intercalate lines, ending.chars ++ card)
          ∧ ∀ expectation,
              expectation? (ending.chars.intercalate lines) = some expectation
              → read (String.ofList (compose marks ending lines card))
                = .ok { expectation, source := String.ofList (ending.chars ++ card) })
      ∧ (lines = []
        → read (String.ofList (compose marks ending lines card))
          = .error
              (if (card.splitOn '\n').any dashes.isPrefixOf then .badSettings else .noClosing))
      ∧ ∀ text,
          (read (String.ofList text) = .error .noOpening ↔ ¬ dashes <+: unmarked text)
          ∧ (read (String.ofList text) = .error .noClosing
            ↔ dashes <+: unmarked text ∧ ∀ line ∈ closers (unmarked text), ¬ dashes <+: line)
          ∧ ((∀ line ∈ ((unmarked text).splitOn '\n').tail, ¬ dashes <+: line)
            → ∃ fault, read (String.ofList text) = .error fault) := by
  refine ⟨?lines, ?none, fun text => ⟨?opening, ?closing, ?later⟩⟩
  case lines =>
    intro some
    obtain ⟨first, rest, rfl⟩ := List.exists_cons_of_ne_nil some
    have parts := split_compose_cons marks ending clean card
    refine ⟨parts, fun expectation known => ?_⟩
    rw [read, String.toList_ofList, parts]
    simp only [known]
  case none =>
    rintro rfl
    exact read_compose_nil marks ending card
  case opening => exact Iff.trans (read_error_iff (by decide)) split_noOpening_iff
  case closing => exact Iff.trans (read_error_iff (by decide)) split_noClosing_iff
  case later =>
    intro none
    by_cases opens : dashes <+: unmarked text
    · refine ⟨.noClosing, (read_error_iff (by decide)).mpr ?_⟩
      exact split_noClosing_iff.mpr ⟨opens, fun line listed => none line (closers_subset listed)⟩
    · exact ⟨.noOpening, (read_error_iff (by decide)).mpr (split_noOpening_iff.mpr opens)⟩

/-- Two lines of settings, the second one blank, in a file with a byte-order mark and with carriage
returns, and a card with dashes at the start of a line.  Witness: evaluation of the settings.
-/
theorem returnedFile_read
    : (∀ line ∈ ["validate = \"off\"".toList, []], IsSettingsLine line)
      ∧ read (String.ofList
          (compose 1 .returned ["validate = \"off\"".toList, []] "[]\n---".toList))
        = .ok { expectation := { level := .off }, source := "\r\n[]\n---" } := by
  have clean : ∀ line ∈ ["validate = \"off\"".toList, []], IsSettingsLine line := by
    intro line listed
    rcases List.mem_pair.mp listed with rfl | rfl
    · exact ⟨by decide, by decide, by decide⟩
    · exact ⟨by decide, by decide, by decide⟩
  have known
      : expectation? (LineEnd.returned.chars.intercalate ["validate = \"off\"".toList, []])
        = some { level := .off } := by
    decide +kernel
  exact ⟨clean, ((read_compose 1 .returned clean "[]\n---".toList).1 (by decide)).2 _ known⟩

/-- Settings may be empty, but a file whose two lines of dashes have nothing between them is refused
for want of the second.
-/
theorem bareFile_refused
    : expectation? [] = some {}
      ∧ split (compose 0 .newline [] "\x7b\"elements\": []\x7d".toList) = .error .noClosing
      ∧ split (compose 0 .newline [] "\x7b\"elements\": []\x7d".toList)
        ≠ .ok ([], '\n' :: "\x7b\"elements\": []\x7d".toList) := by
  have refused
      : split (compose 0 .newline [] "\x7b\"elements\": []\x7d".toList) = .error .noClosing := by
    rw [split_noClosing_iff]
    decide
  refine ⟨by decide, refused, ?_⟩
  rw [refused]
  exact nofun

end MessageCard.Fixture
