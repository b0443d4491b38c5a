import MessageCard.Proofs.PositionOffsets
import MessageCard.Proofs.ReaderInvariants

/-! Where the reader fails.  Outside of strings a reader takes characters of one byte only, so it
stands after such a character whenever it looks for something.  It fails there, or after a first byte
that does not fit, but for two cases: the text may end within a string, after any character, and of
an escape by number the four bytes are looked at before any of them is.
-/

namespace MessageCard.Json.Reader

-----------------------------------------------------------------------------------------
-- Places in a source
-----------------------------------------------------------------------------------------

/-- The rest of the source follows a character of one byte, or is all of it. -/
def Stands (source rest : List Char) : Prop :=
  ∃ before, source = before ++ rest ∧ ∀ c, before.getLast? = some c → c.utf8Size = 1

/-- The failure is at a place where the reader may fail. -/
inductive Failure.Placed (source : List Char) : Failure → Prop
  | ahead {defect : Defect} {c : Char} {rest : List Char} (left : c :: rest <:+ source)
    : Placed source { defect, rest := c :: rest, ahead := 1 }
  | here {defect : Defect} {rest : List Char} (stands : Stands source rest)
    : Placed source { defect, rest, ahead := 0 }
  | brokenOff : Placed source { defect := .endInString, rest := [], ahead := 0 }
  | badEscape {rest : List Char} (left : rest <:+ source) (four : 4 ≤ utf8Length rest)
    : Placed source { defect := .badEscape, rest, ahead := 4 }

variable {source rest : List Char} {c : Char}

theorem Stands.self (source : List Char) : Stands source source :=
  ⟨[], rfl, fun _ none => by cases none⟩

theorem Stands.suffix (stands : Stands source rest) : rest <:+ source := by
  obtain ⟨before, whole, _⟩ := stands
  exact ⟨before, whole.symm⟩

theorem suffix_of_cons (left : c :: rest <:+ source) : rest <:+ source :=
  (List.suffix_cons c rest).trans left

/-- A reader that took a character of one byte stands after it. -/
theorem Stands.of_cons (left : c :: rest <:+ source) (single : c.utf8Size = 1)
    : Stands source rest := by
  obtain ⟨before, whole⟩ := left
  refine ⟨before ++ [c], by rw [← whole, List.append_assoc, List.singleton_append], ?_⟩
  intro last same
  rw [List.getLast?_concat] at same
  exact Option.some.inj same ▸ single

theorem Stands.tail (stands : Stands source (c :: rest)) (single : c.utf8Size = 1)
    : Stands source rest :=
  .of_cons stands.suffix single

/-- A reader that took characters of one byte stands after them, by induction over what it had left. -/
theorem Stands.dropWhile {test : Char → Bool} {text : List Char}
    (each : ∀ c, test c = true → c.utf8Size = 1) (stands : Stands source text)
    : Stands source (text.dropWhile test) := by
  induction text with
  | nil => exact stands
  | cons c rest ih =>
      rw [List.dropWhile_cons]
      split
      · rename_i taken
        exact ih (stands.tail (each c taken))
      · exact stands

theorem utf8Size_of_le (bound : Char) (less : c ≤ bound) (ascii : bound.val ≤ 127)
    : c.utf8Size = 1 :=
  Char.utf8Size_eq_one_iff.mpr (UInt32.le_trans less ascii)

theorem utf8Size_of_isDigit (digit : c.isDigit = true) : c.utf8Size = 1 := by
  rw [Char.isDigit, Bool.and_eq_true, decide_eq_true_eq, decide_eq_true_eq] at digit
  exact utf8Size_of_le '9' digit.2 (by decide)

theorem utf8Size_of_hexDigit {value : Nat} (digit : CharSet.hexDigit? c = some value)
    : c.utf8Size = 1 := by
  rw [CharSet.hexDigit?] at digit
  split at digit
  · rename_i within
    exact utf8Size_of_le '9' within.2 (by decide)
  · split at digit
    · rename_i within
      exact utf8Size_of_le 'f' within.2 (by decide)
    · split at digit
      · rename_i within
        exact utf8Size_of_le 'F' within.2 (by decide)
      · cases digit

theorem utf8Size_of_isSeparator (blank : isSeparator c = true) : c.utf8Size = 1 := by
  simp only [isSeparator, Bool.or_eq_true, beq_iff_eq] at blank
  rcases blank with ((rfl | rfl) | rfl) | rfl <;> decide

theorem Stands.skipBlank {text : List Char} (stands : Stands source text)
    : Stands source (skipBlank text) :=
  stands.dropWhile fun _ => utf8Size_of_isSeparator

-----------------------------------------------------------------------------------------
-- Readings
-----------------------------------------------------------------------------------------

/-- The reading leaves the reader where it may stand, or fails where it may fail. -/
structure Lands {α : Type} (source : List Char) (left : α → List Char)
    (reading : Except Failure α) : Prop where
  ok : ∀ {result}, reading = .ok result → Stands source (left result)
  error : ∀ {failure}, reading = .error failure → failure.Placed source

section Readings

variable {α β : Type} {left : α → List Char} {after : β → List Char}

theorem Lands.of_ok {result : α} (stands : Stands source (left result))
    : Lands source left (.ok result) :=
  ⟨fun same => Except.ok.inj same ▸ stands, fun none => by cases none⟩

theorem Lands.of_placed {failure : Failure} (placed : failure.Placed source)
    : Lands source left (.error failure) :=
  ⟨fun none => (by cases none), fun same => Except.error.inj same ▸ placed⟩

/-- A reading ends where it may when what follows it does, and fails where either may. -/
theorem Lands.bind {reading : Except Failure α} {next : α → Except Failure β}
    (first : Lands source left reading)
    (second
      : ∀ result,
          reading = .ok result → Stands source (left result) → Lands source after (next result))
    : Lands source after (reading >>= next) := by
  cases reading with
  | ok result => exact second result rfl (first.ok rfl)
  | error failure => exact .of_placed (first.error rfl)

theorem Lands.mapReading {f : α → β} {reading : Except Failure (α × List Char)}
    (lands : Lands source Prod.snd reading)
    : Lands source Prod.snd (mapReading f reading) := by
  rcases reading with failure | ⟨result, rest⟩
  · exact .of_placed (lands.error rfl)
  · exact .of_ok (lands.ok rfl)

end Readings

-----------------------------------------------------------------------------------------
-- Words and numbers
-----------------------------------------------------------------------------------------

theorem word_lands {α : Type} (result : α) {expected text : List Char}
    (ascii : expected.all (·.utf8Size == 1) = true) (stands : Stands source text)
    : Lands source Prod.snd (word result expected text) := by
  induction expected generalizing text with
  | nil => exact .of_ok stands
  | cons c expected ih =>
      cases text with
      | nil => exact .of_placed (.here stands)
      | cons d text =>
          rw [word]
          split
          · rename_i same
            rw [List.all_cons, Bool.and_eq_true, beq_iff_eq] at ascii
            exact ih ascii.2 (stands.tail (same ▸ ascii.1))
          · exact .of_placed (.ahead stands.suffix)

theorem significandDigits_stands {text : List Char} (stands : Stands source text) (value : Nat)
    : Stands source (significandDigits value text).2.2.2 := by
  induction text generalizing value with
  | nil => exact stands
  | cons c rest ih =>
      rw [significandDigits]
      split
      · rename_i digit
        dsimp only
        split
        · exact ih (stands.tail (utf8Size_of_isDigit digit)) _
        · exact stands.dropWhile fun _ => utf8Size_of_isDigit
      · exact stands

theorem exponentDigits_stands {text : List Char} (stands : Stands source text) (value : Nat)
    : Stands source (exponentDigits value text).2 := by
  induction text generalizing value with
  | nil => exact stands
  | cons c rest ih =>
      rw [exponentDigits]
      split
      · rename_i digit
        have after := stands.tail (utf8Size_of_isDigit digit)
        dsimp only
        split
        · exact ih after _
        · exact after
      · exact stands

theorem splitSign_stands {text : List Char} (stands : Stands source text)
    : Stands source (splitSign text).2 := by
  rw [splitSign.eq_def]
  split
  · exact stands.tail (by decide)
  · exact stands.tail (by decide)
  · exact stands

theorem signedDouble_lands (negative : Bool) (significand : Nat) (power : Int)
    (stands : Stands source rest)
    : Lands source Prod.snd (signedDouble negative significand power rest) := by
  rw [signedDouble]
  split
  · exact .of_ok stands
  · exact .of_placed (.here stands)

theorem exponentPart_lands (negative : Bool) (significand : Nat) (power : Int) {text : List Char}
    (stands : Stands source text)
    : Lands source Prod.snd (exponentPart negative significand power text) := by
  have signed := splitSign_stands stands
  rw [exponentPart]
  generalize splitSign text = split at signed
  obtain ⟨minus, digits⟩ := split
  cases digits with
  | nil => exact .of_placed (.here signed)
  | cons c rest =>
      dsimp only
      by_cases digit : c.isDigit = true
      · have after := exponentDigits_stands (signed.tail (utf8Size_of_isDigit digit))
          (digitValue c)
        rw [digit]
        generalize exponentDigits (digitValue c) rest = read at after
        obtain ⟨exponent, left⟩ := read
        cases exponent with
        | some exponent => exact signedDouble_lands _ _ _ after
        | none =>
            simp only [Bool.not_true, Bool.false_eq_true, if_false]
            split
            · exact .of_placed (.here after)
            · exact .of_ok (after.dropWhile fun _ => utf8Size_of_isDigit)
      · rw [Bool.not_eq_true] at digit
        rw [digit]
        exact .of_placed (.ahead signed.suffix)

theorem doubleEnd_lands (negative : Bool) (significand : Nat) (power : Int) {text : List Char}
    (stands : Stands source text)
    : Lands source Prod.snd (doubleEnd negative significand power text) := by
  cases text with
  | nil => exact signedDouble_lands _ _ _ stands
  | cons c rest =>
      rw [doubleEnd]
      split
      · rename_i letter
        refine exponentPart_lands _ _ _ (stands.tail ?_)
        rcases letter with rfl | rfl <;> decide
      · exact signedDouble_lands _ _ _ stands

theorem fractionPart_lands (negative : Bool) (significand : Nat) (power : Int) {text : List Char}
    (stands : Stands source text)
    : Lands source Prod.snd (fractionPart negative significand power text) := by
  cases text with
  | nil => exact .of_placed (.here stands)
  | cons c rest =>
      rw [fractionPart]
      split
      · exact .of_placed (.ahead stands.suffix)
      · exact doubleEnd_lands _ _ _ (significandDigits_stands stands significand)

theorem numberEnd_lands (negative : Bool) (significand dropped : Nat) {text : List Char}
    (stands : Stands source text)
    : Lands source Prod.snd (numberEnd negative significand dropped text) := by
  rw [numberEnd.eq_def]
  split
  · exact fractionPart_lands _ _ _ (stands.tail (by decide))
  · split
    · exact doubleEnd_lands _ _ _ stands
    · split
      · exact .of_ok stands
      · split
        · exact .of_ok stands
        · exact .of_ok stands

theorem unsigned_lands (negative : Bool) {text : List Char} (stands : Stands source text)
    : Lands source Prod.snd (unsigned negative text) := by
  rw [unsigned.eq_def]
  split
  · exact .of_placed (.here stands)
  · rename_i rest
    have after := stands.tail (by decide)
    split
    · rename_i digit
      cases rest with
      | nil => simp at digit
      | cons d rest => exact .of_placed (.ahead after.suffix)
    · exact numberEnd_lands _ _ _ after
  · rename_i c rest _
    split
    · rename_i digit
      have after := stands.tail (utf8Size_of_isDigit digit)
      exact numberEnd_lands _ _ _ (significandDigits_stands after (digitValue c))
    · exact .of_placed (.ahead stands.suffix)

theorem number_lands {text : List Char} (stands : Stands source text)
    : Lands source Prod.snd (number text) := by
  rw [number.eq_def]
  split
  · exact unsigned_lands true (stands.tail (by decide))
  · exact unsigned_lands false stands

-----------------------------------------------------------------------------------------
-- Strings
-----------------------------------------------------------------------------------------

theorem length_le_utf8Length (text : List Char) : text.length ≤ utf8Length text := by
  induction text with
  | nil => exact Nat.le_refl _
  | cons c rest ih =>
      have := c.utf8Size_pos
      rw [utf8Length_cons, List.length_cons]
      omega

theorem hexEscape_lands {text : List Char} (stands : Stands source text)
    : Lands source Prod.snd (hexEscape text) := by
  rw [hexEscape.eq_def]
  split
  · rename_i a b c d rest
    split
    · rename_i first second third fourth
      refine .of_ok ?_
      refine .tail (.tail (.tail (.tail stands ?_) ?_) ?_) ?_
      · exact utf8Size_of_hexDigit first
      · exact utf8Size_of_hexDigit second
      · exact utf8Size_of_hexDigit third
      · exact utf8Size_of_hexDigit fourth
    · refine .of_placed (.badEscape stands.suffix ?_)
      calc 4 ≤ (a :: b :: c :: d :: rest).length := by simp
        _ ≤ utf8Length (a :: b :: c :: d :: rest) := length_le_utf8Length _
  · split
    · rename_i four
      exact .of_placed (.badEscape stands.suffix four)
    · exact .of_placed .brokenOff

theorem lowSurrogate_lands (high : Nat) {text : List Char} (stands : Stands source text)
    : Lands source Prod.snd (lowSurrogate high text) := by
  rw [lowSurrogate.eq_def]
  split
  · exact .of_placed .brokenOff
  · refine (hexEscape_lands ((stands.tail (by decide)).tail (by decide))).bind ?_
    rintro ⟨low, rest⟩ _ after
    dsimp only
    split
    · exact .of_placed (.here after)
    · exact .of_ok after
  · exact .of_placed .brokenOff
  · rename_i rest _ filled
    have after := stands.tail (by decide)
    cases rest with
    | nil => exact (filled rfl).elim
    | cons c rest => exact .of_placed (.ahead after.suffix)
  · rename_i filled _ _ _
    cases text with
    | nil => exact (filled rfl).elim
    | cons c rest => exact .of_placed (.ahead stands.suffix)

theorem unicodeEscape_lands {text : List Char} (stands : Stands source text)
    : Lands source Prod.snd (unicodeEscape text) := by
  refine (hexEscape_lands stands).bind ?_
  rintro ⟨code, rest⟩ _ after
  dsimp only
  split
  · exact .of_placed (.here after)
  · split
    · exact lowSurrogate_lands code after
    · exact .of_ok after

theorem utf8Size_of_shortEscape {meaning : Char} (short : shortEscape? c = some meaning)
    : c.utf8Size = 1 := by
  simp only [shortEscape?] at short
  split_ifs at short with same same same same same same
  · rcases same with rfl | rfl | rfl <;> decide
  all_goals exact same ▸ by decide

theorem escape_lands {text : List Char} (stands : Stands source text)
    : Lands source Prod.snd (escape text) := by
  rw [escape.eq_def]
  split
  · exact .of_placed .brokenOff
  · exact unicodeEscape_lands (stands.tail (by decide))
  · rename_i c rest _
    split
    · rename_i short
      exact .of_ok (stands.tail (utf8Size_of_shortEscape short))
    · exact .of_placed (.ahead stands.suffix)

/-- A string may hold any characters, so that its reader need not stand after one of a single
byte.  By induction on the bound, which a reading cannot use up.
-/
theorem stringBody_lands {bound : Nat} {text : List Char} (left : text <:+ source)
    (enough : text.length < bound)
    : Lands source Prod.snd (stringBody bound text) := by
  induction bound generalizing text with
  | zero => exact (Nat.not_lt_zero _ enough).elim
  | succ bound ih =>
      cases text with
      | nil => exact .of_placed .brokenOff
      | cons c rest =>
          have shorter : rest.length < bound := Nat.lt_of_succ_lt_succ enough
          rw [stringBody]
          by_cases quote : c = '"'
          · rw [if_pos quote]
            exact .of_ok (.of_cons left (quote ▸ by decide))
          rw [if_neg quote]
          by_cases backslash : c = '\\'
          · rw [if_pos backslash]
            refine (escape_lands (.of_cons left (backslash ▸ by decide))).bind ?_
            rintro ⟨meaning, rest⟩ read after
            have least := ((escape_lands (.self _)).ok read).suffix.length_le
            refine (ih after.suffix (Nat.lt_of_le_of_lt least shorter)).bind ?_
            rintro ⟨more, rest⟩ _ after
            exact .of_ok after
          rw [if_neg backslash]
          split
          · exact .of_placed (.ahead left)
          · refine (ih (suffix_of_cons left) shorter).bind ?_
            rintro ⟨more, rest⟩ _ after
            exact .of_ok after

theorem stringRest_lands {text : List Char} (left : text <:+ source)
    : Lands source Prod.snd (stringRest text) := by
  refine (stringBody_lands left (Nat.lt_succ_self _)).bind ?_
  rintro ⟨characters, rest⟩ _ after
  exact .of_ok after

-----------------------------------------------------------------------------------------
-- Values
-----------------------------------------------------------------------------------------

theorem colon_lands {text : List Char} (stands : Stands source text)
    : Lands source id (colon text) := by
  have next := stands.skipBlank
  rw [colon]
  split
  · rename_i found
    exact .of_ok ((found ▸ next).tail (by decide))
  · rename_i found
    exact .of_placed (.here (found ▸ next))
  · rename_i filled
    cases found : skipBlank text with
    | nil => exact (filled found).elim
    | cons c rest => exact .of_placed (.ahead (found ▸ next).suffix)

/-- What is left to be read of what follows in a container. -/
def Next.left : Next → List Char
  | finished rest => rest
  | member text => text

theorem nextItem_lands (first : Bool) {text : List Char} (stands : Stands source text)
    : Lands source Next.left (nextItem first text) := by
  have next := stands.skipBlank
  rw [nextItem]
  split
  · rename_i found
    exact .of_placed (.here (found ▸ next))
  · rename_i found
    exact .of_ok ((found ▸ next).tail (by decide))
  · rename_i c rest _ found
    rw [found] at next
    split
    · exact .of_ok next
    · split
      · rename_i comma
        have later := (next.tail (comma ▸ by decide)).skipBlank
        split
        · rename_i found
          exact .of_placed (.here (found ▸ later))
        · rename_i found
          exact .of_placed (.ahead (found ▸ later).suffix)
        · exact .of_ok later
      · exact .of_placed (.ahead next.suffix)

theorem nextName_lands (first : Bool) {text : List Char} (stands : Stands source text)
    : Lands source Next.left (nextName first text) := by
  have next := stands.skipBlank
  rw [nextName]
  split
  · rename_i found
    exact .of_placed (.here (found ▸ next))
  · rename_i found
    exact .of_ok ((found ▸ next).tail (by decide))
  · rename_i c rest _ found
    rw [found] at next
    split
    · split
      · rename_i quote
        exact .of_ok (next.tail (quote ▸ by decide))
      · exact .of_placed (.ahead next.suffix)
    · split
      · rename_i comma
        have later := (next.tail (comma ▸ by decide)).skipBlank
        split
        · rename_i found
          exact .of_placed (.here (found ▸ later))
        · rename_i found
          exact .of_ok ((found ▸ later).tail (by decide))
        · rename_i found
          exact .of_placed (.ahead (found ▸ later).suffix)
        · rename_i filled _ _
          cases found : skipBlank rest with
          | nil => exact (filled found).elim
          | cons d more => exact .of_placed (.ahead (found ▸ later).suffix)
      · exact .of_placed (.ahead next.suffix)

/-- All readings within the bound land in the source. -/
structure LandsWithin (source : List Char) (bound : Nat) : Prop where
  value
    : ∀ (room : Nat) {text : List Char},
        Stands source text → Lands source Prod.snd (Reader.value bound room text)
  items
    : ∀ {room : Nat} {first : Bool} {text : List Char},
        Stands source text → Lands source Prod.snd (Reader.items bound room first text)
  fields
    : ∀ {room : Nat} {first : Bool} {seen : Fields} {text : List Char},
        Stands source text → Lands source Prod.snd (Reader.fields bound room first seen text)

variable {bound room : Nat} {first : Bool} {text : List Char}

/-- A value lands when its parts do: cases on the character that it starts with. -/
theorem LandsWithin.succ_value (below : LandsWithin source bound) (stands : Stands source text)
    : Lands source Prod.snd (Reader.value (bound + 1) room text) := by
  have next := stands.skipBlank
  rw [Reader.value]
  split <;> rename_i found <;> rw [found] at next
  · exact .of_placed (.here next)
  · exact word_lands _ (by decide) (next.tail (by decide))
  · exact word_lands _ (by decide) (next.tail (by decide))
  · exact word_lands _ (by decide) (next.tail (by decide))
  · exact (stringRest_lands (suffix_of_cons next.suffix)).mapReading
  · split
    · exact .of_placed (.ahead next.suffix)
    · exact (below.items (next.tail (by decide))).mapReading
  · split
    · exact .of_placed (.ahead next.suffix)
    · exact (below.fields (next.tail (by decide))).mapReading
  · split
    · exact (number_lands next).mapReading
    · exact .of_placed (.ahead next.suffix)

theorem LandsWithin.succ_items (below : LandsWithin source bound) (stands : Stands source text)
    : Lands source Prod.snd (Reader.items (bound + 1) room first text) := by
  have next := nextItem_lands first stands
  rw [Reader.items]
  split
  · rename_i failed
    exact .of_placed (next.error failed)
  · rename_i found
    exact .of_ok (next.ok found)
  · rename_i found
    have item := below.value room (next.ok found)
    split
    · rename_i failed
      exact .of_placed (item.error failed)
    · rename_i read
      exact (below.items (item.ok read)).mapReading

theorem LandsWithin.succ_fields (below : LandsWithin source bound) {seen : Fields}
    (stands : Stands source text)
    : Lands source Prod.snd (Reader.fields (bound + 1) room first seen text) := by
  have next := nextName_lands first stands
  rw [Reader.fields]
  split
  · rename_i failed
    exact .of_placed (next.error failed)
  · rename_i found
    exact .of_ok (next.ok found)
  · rename_i found
    have name := stringRest_lands (next.ok found).suffix
    split
    · rename_i failed
      exact .of_placed (name.error failed)
    · rename_i named
      have separated := colon_lands (name.ok named)
      split
      · rename_i failed
        exact .of_placed (separated.error failed)
      · rename_i after
        have item := below.value room (separated.ok after)
        split
        · rename_i failed
          exact .of_placed (item.error failed)
        · rename_i read
          exact below.fields (item.ok read)

/-- By induction on the bound, for values, items and fields at once. -/
theorem landsWithin (source : List Char) (bound : Nat) : LandsWithin source bound := by
  induction bound with
  | zero =>
      constructor
      case value => exact fun _ _ stands => .of_placed (.here stands)
      case items => exact fun stands => .of_placed (.here stands)
      case fields => exact fun stands => .of_placed (.here stands)
  | succ bound ih =>
      constructor
      case value => exact fun _ _ stands => ih.succ_value stands
      case items => exact fun stands => ih.succ_items stands
      case fields => exact fun stands => ih.succ_fields stands

theorem finished_placed {α : Type} {result : α} {failure : Failure} (stands : Stands source rest)
    (failed : finished result rest = .error failure)
    : failure.Placed source := by
  have next := stands.skipBlank
  rw [finished] at failed
  split at failed
  · cases failed
  · rename_i filled
    cases found : skipBlank rest with
    | nil => exact (filled found).elim
    | cons c more =>
        rw [found] at failed next
        exact Except.error.inj failed ▸ .ahead next.suffix

/-- A text that is not JSON fails at one of the places. -/
theorem readText_placed {failure : Failure} (failed : readText source = .error failure)
    : failure.Placed source := by
  have lands := (landsWithin source (2 * source.length + 2)).value nestingLimit (.self _)
  simp only [readText, bind, Except.bind] at failed
  split at failed
  · rename_i read
    exact Except.error.inj failed ▸ lands.error read
  · rename_i read
    exact finished_placed (lands.ok read) failed

end MessageCard.Json.Reader
