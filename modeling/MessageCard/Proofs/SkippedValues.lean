import Mathlib.Data.List.DropRight
import MessageCard.Json.Typed
import MessageCard.Proofs.ReaderInvariants

/-! Values that are skipped.  A value can be skipped without being built: the brackets that are
open are kept on a stack, and strings and numbers are only looked through.  Where the value can
be read as well, skipping it leaves the text that reading it leaves.
-/

namespace MessageCard.Json.Reader

-----------------------------------------------------------------------------------------
-- Words and strings
-----------------------------------------------------------------------------------------

/-- Which result a word stands for has no part in what it takes off the text. -/
theorem word_as {α β : Type} {result found : α} {expected text rest : List Char} (other : β)
    (read : word result expected text = .ok (found, rest))
    : word other expected text = .ok (other, rest) := by
  induction expected generalizing text with
  | nil => cases read; rfl
  | cons c expected ih =>
      cases text with
      | nil => cases read
      | cons d text =>
          rw [word] at read ⊢
          split at read
          · rename_i same
            rw [if_pos same]
            exact ih read
          · cases read

/-- The second half of a pair of surrogates is an escape by number of its own. -/
theorem lowSurrogate_ok {high : Nat} {text rest : List Char} {c : Char}
    (read : lowSurrogate high text = .ok (c, rest))
    : ∃ digits low, text = '\\' :: 'u' :: digits ∧ hexEscape digits = .ok (low, rest) := by
  rw [lowSurrogate.eq_def] at read
  split at read
  · cases read
  · rename_i digits
    obtain ⟨⟨low, left⟩, number, read⟩ := bind_ok_iff.mp read
    dsimp only at read
    split at read
    · cases read
    · exact ⟨digits, low, rfl, (Prod.mk.inj (Except.ok.inj read)).2 ▸ number⟩
  · cases read
  · cases read
  · cases read

/-- A short escape is one letter, and an escape by number is four digits, or twice four with the
marks of another escape between them.
-/
theorem escape_ok_cases {text rest : List Char} {meaning : Char}
    (read : escape text = .ok (meaning, rest))
    : (∃ c, c ≠ 'u' ∧ text = c :: rest ∧ (shortEscape? c).isSome = true)
      ∨ (∃ digits code, text = 'u' :: digits ∧ hexEscape digits = .ok (code, rest))
      ∨ ∃ digits high others low,
          text = 'u' :: digits
          ∧ hexEscape digits = .ok (high, '\\' :: 'u' :: others)
          ∧ hexEscape others = .ok (low, rest) := by
  rw [escape.eq_def] at read
  split at read
  · cases read
  · rename_i digits
    obtain ⟨⟨code, left⟩, first, read⟩ := bind_ok_iff.mp read
    dsimp only at read
    split at read
    · cases read
    · split at read
      · obtain ⟨others, low, rfl, second⟩ := lowSurrogate_ok read
        exact .inr (.inr ⟨digits, code, others, low, rfl, first, second⟩)
      · cases read
        exact .inr (.inl ⟨digits, code, rfl, first⟩)
  · rename_i c left other
    split at read
    · rename_i known
      cases read
      exact .inl ⟨c, other, rfl, by rw [known]; rfl⟩
    · cases read

theorem skipString_quote (limit : Nat) (rest : List Char)
    : skipString (limit + 1) ('"' :: rest) = .ok rest := by
  rw [skipString.eq_def]
  rfl

theorem skipString_plain (limit : Nat) {c : Char} (rest : List Char) (notQuote : c ≠ '"')
    (notBackslash : c ≠ '\\') (plain : ¬ c.toNat < 0x20)
    : skipString (limit + 1) (c :: rest) = skipString limit rest := by
  rw [skipString.eq_def]
  simp only [if_neg notQuote, if_neg notBackslash, if_neg plain]

theorem skipString_short (limit : Nat) {c : Char} (rest : List Char) (other : c ≠ 'u')
    (short : (shortEscape? c).isSome = true)
    : skipString (limit + 1) ('\\' :: c :: rest) = skipString limit rest := by
  rw [skipString.eq_5 _ _ _ _ other, if_neg (by decide), if_pos rfl, if_pos short]

theorem skipString_number (limit : Nat) {digits rest : List Char} {code : Nat}
    (number : hexEscape digits = .ok (code, rest))
    : skipString (limit + 1) ('\\' :: 'u' :: digits) = skipString limit rest := by
  rw [skipString.eq_4, if_neg (by decide), if_pos rfl, number]

/-- A string that is skipped ends where it does when it is read, by induction over what is read.
Only an escape by two numbers is one step for the reader and two steps for what skips it.
-/
theorem skipString_rest {bound limit : Nat} {text rest out characters : List Char}
    (read : stringBody bound text = .ok (characters, rest))
    (skipped : skipString limit text = .ok out)
    : out = rest := by
  induction bound generalizing limit text characters with
  | zero => cases read
  | succ bound ih =>
      cases limit with
      | zero => cases skipped
      | succ limit =>
          cases text with
          | nil => cases read
          | cons c text =>
              rw [stringBody] at read
              by_cases quote : c = '"'
              · subst quote
                cases read
                rw [skipString_quote] at skipped
                exact (Except.ok.inj skipped).symm
              rw [if_neg quote] at read
              by_cases backslash : c = '\\'
              · subst backslash
                obtain ⟨⟨meaning, left⟩, escaped, read⟩ := bind_ok_iff.mp read
                obtain ⟨⟨more, after⟩, body, same⟩ := bind_ok_iff.mp read
                cases same
                rcases escape_ok_cases escaped with
                  ⟨c, other, rfl, short⟩ | ⟨digits, code, rfl, number⟩
                  | ⟨digits, high, others, low, rfl, first, second⟩
                · rw [skipString_short limit left other short] at skipped
                  exact ih body skipped
                · rw [skipString_number limit number] at skipped
                  exact ih body skipped
                · rw [skipString_number limit first] at skipped
                  cases limit with
                  | zero => cases skipped
                  | succ limit =>
                      rw [skipString_number limit second] at skipped
                      exact ih body skipped
              rw [if_neg backslash] at read
              split at read
              · cases read
              · rename_i plain
                obtain ⟨⟨more, after⟩, body, same⟩ := bind_ok_iff.mp read
                cases same
                rw [skipString_plain limit text quote backslash plain] at skipped
                exact ih body skipped

theorem skipString_stringRest {limit : Nat} {text rest out : List Char} {content : String}
    (read : stringRest text = .ok (content, rest)) (skipped : skipString limit text = .ok out)
    : out = rest := by
  obtain ⟨⟨characters, left⟩, body, same⟩ := bind_ok_iff.mp read
  cases same
  exact skipString_rest body skipped

-----------------------------------------------------------------------------------------
-- Numbers
-----------------------------------------------------------------------------------------

theorem significandDigits_rest (value : Nat) (text : List Char)
    : (significandDigits value text).2.2.2 = text.dropWhile Char.isDigit := by
  induction text generalizing value with
  | nil => rfl
  | cons c rest ih =>
      rw [significandDigits]
      split
      · rename_i digit
        dsimp only
        split
        · rw [List.dropWhile_cons_of_pos digit]
          exact ih _
        · rfl
      · rename_i other
        rw [List.dropWhile_cons_of_neg other]

/-- The digits of an exponent are taken off up to the one that makes it too large. -/
theorem exponentDigits_rest (value : Nat) (text : List Char)
    : (exponentDigits value text).2.dropWhile Char.isDigit = text.dropWhile Char.isDigit
      ∧ ((exponentDigits value text).1.isSome = true
        → (exponentDigits value text).2 = text.dropWhile Char.isDigit) := by
  induction text generalizing value with
  | nil => exact ⟨rfl, fun _ => rfl⟩
  | cons c rest ih =>
      rw [exponentDigits]
      split
      · rename_i digit
        rw [List.dropWhile_cons_of_pos digit]
        dsimp only
        split
        · exact ih _
        · exact ⟨rfl, nofun⟩
      · rename_i other
        rw [List.dropWhile_cons_of_neg other]
        exact ⟨rfl, fun _ => rfl⟩

theorem skipDigits_of_digit (seen : Nat) {c : Char} (rest : List Char) (digit : c.isDigit = true)
    : skipDigits seen (c :: rest) = .ok (rest.dropWhile Char.isDigit) := by
  rw [skipDigits, List.head?_cons, Option.any_some, if_pos digit,
    List.dropWhile_cons_of_pos digit]

variable {negative : Bool} {significand : Nat} {power : Int} {found : JsonNumber}
  {text rest : List Char}

theorem signedDouble_rest
    (read : signedDouble negative significand power text = .ok (found, rest))
    : text = rest := by
  rw [signedDouble] at read
  split at read
  · cases read
    rfl
  · cases read

theorem skipDigits_exponentPart
    (read : exponentPart negative significand power text = .ok (found, rest))
    : skipDigits 1 (splitSign text).2 = .ok rest := by
  rw [exponentPart] at read
  generalize splitSign text = split at read ⊢
  obtain ⟨minus, digits⟩ := split
  cases digits with
  | nil => cases read
  | cons c more =>
      dsimp only at read ⊢
      split at read
      · cases read
      · rename_i digit
        have digit : c.isDigit = true := by simpa using digit
        rw [skipDigits_of_digit 1 more digit]
        obtain ⟨dropped, taken⟩ := exponentDigits_rest (digitValue c) more
        split at read
        · rename_i exponent left known
          rw [known] at taken
          rw [← taken rfl, signedDouble_rest read]
        · rename_i left known
          rw [known] at dropped
          split at read
          · cases read
          · cases read
            rw [← dropped]

theorem skipExponent_doubleEnd
    (read : doubleEnd negative significand power text = .ok (found, rest))
    : skipExponent text = .ok rest := by
  cases text with
  | nil => exact congrArg Except.ok (signedDouble_rest read)
  | cons c more =>
      rw [doubleEnd] at read
      rw [skipExponent]
      split at read
      · rename_i letter
        rw [if_pos letter]
        exact skipDigits_exponentPart read
      · rename_i other
        rw [if_neg other]
        exact congrArg Except.ok (signedDouble_rest read)

/-- Skips what may follow the integer part of a number. -/
def skipFraction (text : List Char) : Except Failure (List Char) :=
  match text with
  | '.' :: rest => do skipExponent (← skipDigits 1 rest)
  | _ => skipExponent text

theorem skipFraction_numberEnd {dropped : Nat}
    (read : numberEnd negative significand dropped text = .ok (found, rest))
    : skipFraction text = .ok rest := by
  rw [numberEnd.eq_def] at read
  split at read
  · rename_i more
    cases more with
    | nil => cases read
    | cons c digits =>
        rw [fractionPart] at read
        split at read
        · cases read
        · rename_i digit
          have digit : c.isDigit = true := by simpa using digit
          dsimp only at read
          rw [significandDigits_rest, List.dropWhile_cons_of_pos digit] at read
          rw [skipFraction.eq_1, skipDigits_of_digit 1 digits digit]
          exact skipExponent_doubleEnd read
  · rename_i notPoint
    rw [skipFraction.eq_2 _ notPoint]
    split at read
    · exact skipExponent_doubleEnd read
    · rename_i plain
      have same : text = rest := by
        split at read
        · cases read
          rfl
        · split at read
          · cases read
            rfl
          · cases read
            rfl
      subst same
      cases text with
      | nil => rfl
      | cons c more =>
          simp only [List.head?_cons, Option.some.injEq, not_or] at plain
          rw [skipExponent, if_neg (not_or.mpr plain.2)]

theorem skipNumber_zero (last : ¬ rest.head?.any Char.isDigit = true)
    : skipNumber ('0' :: rest) = skipFraction rest := by
  rw [skipNumber.eq_def, skipFraction.eq_def]
  simp only [if_neg last]
  rfl

theorem skipNumber_digit {c : Char} (digit : c.isDigit = true) (notZero : c ≠ '0')
    : skipNumber (c :: rest) = skipFraction (rest.dropWhile Char.isDigit) := by
  rw [skipNumber.eq_def, skipFraction.eq_def, skipDigits_of_digit 1 rest digit]
  split
  · rename_i same
    exact absurd (List.cons.inj same).1 notZero
  · rfl

/-- A number that is skipped ends where it does when it is read. -/
theorem skipNumber_unsigned (read : unsigned negative text = .ok (found, rest))
    : skipNumber text = .ok rest := by
  rw [unsigned.eq_def] at read
  split at read
  · cases read
  · split at read
    · cases read
    · rename_i last
      rw [skipNumber_zero last]
      exact skipFraction_numberEnd read
  · rename_i c more notZero
    split at read
    · rename_i digit
      dsimp only at read
      rw [significandDigits_rest] at read
      rw [skipNumber_digit digit notZero]
      exact skipFraction_numberEnd read
    · cases read

-----------------------------------------------------------------------------------------
-- Values
-----------------------------------------------------------------------------------------

/-- Goes on after a value or an opening bracket, up to the end of all containers. -/
def skipRest (limit : Nat) (brackets : List Bracket) (comma : Bool) (text : List Char)
    : Except Failure (List Char) := do
  let (brackets, rest) ← skipOn brackets comma text
  if brackets.isEmpty then .ok rest else skipValue limit brackets rest

/-- Outside of all containers nothing is left to be skipped. -/
theorem skipRest_nil (limit : Nat) (comma : Bool) (text : List Char)
    : skipRest limit [] comma text = .ok text := by
  rw [skipRest, skipOn]
  rfl

theorem skipBlank_skipBlank (text : List Char) : skipBlank (skipBlank text) = skipBlank text :=
  List.dropWhile_idempotent _ _

/-- Blanks before a value are passed over. -/
theorem skipValue_of_skipBlank {limit : Nat} {brackets : List Bracket} {text out : List Char}
    (skipped : skipValue limit brackets text = .ok out)
    : skipValue limit brackets (skipBlank text) = .ok out := by
  cases limit with
  | zero => cases skipped
  | succ limit => rwa [skipValue, skipBlank_skipBlank, ← skipValue]

variable {bound room limit : Nat} {first : Bool} {brackets : List Bracket} {out : List Char}

/-- A list goes on with its end, with its first item, or with a comma before the next item. -/
theorem nextItem_ok_cases {next : Next} (found : nextItem first text = .ok next)
    : (∃ rest, skipBlank text = ']' :: rest ∧ next = .finished rest)
      ∨ (∃ c rest, first = true ∧ c ≠ ']' ∧ skipBlank text = c :: rest ∧ next = .member (c :: rest))
      ∨ ∃ rest, first = false ∧ skipBlank text = ',' :: rest ∧ next = .member (skipBlank rest) := by
  rw [nextItem] at found
  split at found
  · cases found
  · rename_i rest start
    cases found
    exact .inl ⟨rest, start, rfl⟩
  · rename_i c rest notEnd start
    split at found
    · rename_i isFirst
      cases found
      exact .inr (.inl ⟨c, rest, isFirst, notEnd, start, rfl⟩)
    · rename_i isLater
      split at found
      · rename_i comma
        subst comma
        split at found
        · cases found
        · cases found
        · cases found
          exact .inr (.inr ⟨rest, Bool.eq_false_iff.mpr isLater, start, rfl⟩)
      · cases found

/-- An object goes on with its end, with its first name, or with a comma before the next name. -/
theorem nextName_ok_cases {next : Next} (found : nextName first text = .ok next)
    : (∃ rest, skipBlank text = '\x7d' :: rest ∧ next = .finished rest)
      ∨ (∃ rest, first = true ∧ skipBlank text = '"' :: rest ∧ next = .member rest)
      ∨ ∃ more rest,
          first = false
          ∧ skipBlank text = ',' :: more
          ∧ skipBlank more = '"' :: rest
          ∧ next = .member rest := by
  rw [nextName] at found
  split at found
  · cases found
  · rename_i rest start
    cases found
    exact .inl ⟨rest, start, rfl⟩
  · rename_i c more notEnd start
    split at found
    · rename_i isFirst
      split at found
      · rename_i quote
        cases found
        exact .inr (.inl ⟨more, isFirst, quote ▸ start, rfl⟩)
      · cases found
    · rename_i isLater
      split at found
      · rename_i comma
        split at found
        · cases found
        · rename_i rest name
          cases found
          exact .inr (.inr ⟨more, rest, Bool.eq_false_iff.mpr isLater, comma ▸ start, name, rfl⟩)
        · cases found
        · cases found
      · cases found

theorem skipRest_list_end (comma : Bool) (close : skipBlank text = ']' :: rest)
    : skipRest limit (.list :: brackets) comma text = skipRest limit brackets true rest := by
  rw [skipRest, skipOn, close]
  rfl

theorem skipRest_object_end (comma : Bool) (close : skipBlank text = '\x7d' :: rest)
    : skipRest limit (.object :: brackets) comma text = skipRest limit brackets true rest := by
  rw [skipRest, skipOn, close]
  rfl

theorem skipRest_first_item {c : Char} (other : c ≠ ']') (start : skipBlank text = c :: rest)
    : skipRest limit (.list :: brackets) false text
      = skipValue limit (.list :: brackets) (c :: rest) := by
  rw [skipRest, skipOn, start]
  simp only [other, reduceCtorEq, Bool.false_eq_true, and_false, false_and, or_self, if_false]
  rfl

theorem skipRest_next_item (start : skipBlank text = ',' :: rest)
    : skipRest limit (.list :: brackets) true text
      = skipValue limit (.list :: brackets) rest := by
  rw [skipRest, skipOn, start]
  rfl

theorem skipRest_first_name (start : skipBlank text = '"' :: rest)
    : skipRest limit (.object :: brackets) false text
      = skipName ('"' :: rest) >>= skipValue limit (.object :: brackets) := by
  rw [skipRest, skipOn, start]
  change (skipName ('"' :: rest) >>= fun left => .ok (.object :: brackets, left)) >>= _ = _
  cases skipName ('"' :: rest) <;> rfl

theorem skipRest_next_name (start : skipBlank text = ',' :: rest)
    : skipRest limit (.object :: brackets) true text
      = skipName rest >>= skipValue limit (.object :: brackets) := by
  rw [skipRest, skipOn, start]
  change (skipName rest >>= fun left => .ok (.object :: brackets, left)) >>= _ = _
  cases skipName rest <;> rfl

/-- A name that is skipped with its colon ends where both do when they are read. -/
theorem skipName_rest {inner left after : List Char} {name : String}
    (start : skipBlank text = '"' :: inner) (named : stringRest inner = .ok (name, left))
    (separated : colon left = .ok after) (skipped : skipName text = .ok out)
    : out = after := by
  rw [skipName, start] at skipped
  obtain ⟨behind, taken, skipped⟩ := bind_ok_iff.mp skipped
  rw [skipString_stringRest named taken, separated] at skipped
  exact (Except.ok.inj skipped).symm

/-- Whatever is read within the bound is passed over by what skips it: a value, and a list or an
object from within.
-/
structure Skips (bound : Nat) : Prop where
  value
    : ∀ {room limit : Nat} {brackets : List Bracket} {text rest out : List Char} {found : Json},
        Reader.value bound room text = .ok (found, rest)
        → skipValue limit brackets text = .ok out
        → ∃ limit, skipRest limit brackets true rest = .ok out
  items
    : ∀ {room limit : Nat} {first : Bool} {brackets : List Bracket} {text rest out : List Char}
        {found : List Json},
        Reader.items bound room first text = .ok (found, rest)
        → skipRest limit (.list :: brackets) (!first) text = .ok out
        → ∃ limit, skipRest limit brackets true rest = .ok out
  fields
    : ∀ {room limit : Nat} {first : Bool} {brackets : List Bracket} {text rest out : List Char}
        {seen found : Fields},
        Reader.fields bound room first seen text = .ok (found, rest)
        → skipRest limit (.object :: brackets) (!first) text = .ok out
        → ∃ limit, skipRest limit brackets true rest = .ok out

theorem skipNumber_number {c : Char} (digit : c.isDigit = true)
    (read : number (c :: text) = .ok (found, rest))
    : skipNumber (c :: text) = .ok rest := by
  rw [number.eq_def] at read
  split at read
  · rename_i same
    cases same
    cases digit
  · exact skipNumber_unsigned read

theorem skipValue_digit {c : Char} {more : List Char} (start : skipBlank text = c :: more)
    (digit : c.isDigit = true)
    : skipValue (limit + 1) brackets text
      = skipNumber (c :: more) >>= skipRest limit brackets true := by
  rw [skipValue, start]
  split <;> rename_i same
  case h_1 => cases same
  case h_9 =>
    cases same
    rw [if_pos digit]
    rfl
  all_goals
    cases same
    cases digit

/-- A value is passed over when its parts are: cases on the character that it starts with. -/
theorem Skips.succ_value (below : Skips bound) {found : Json}
    (read : Reader.value (bound + 1) room text = .ok (found, rest))
    (skipped : skipValue limit brackets text = .ok out)
    : ∃ limit, skipRest limit brackets true rest = .ok out := by
  cases limit with
  | zero => cases skipped
  | succ limit =>
      have word_passed {letters more : List Char} {result : Json}
          (read : word result letters more = .ok (found, rest))
          (skipped
            : (word () letters more >>= fun left => skipRest limit brackets true left.2) = .ok out)
          : ∃ limit, skipRest limit brackets true rest = .ok out := by
        rw [word_as () read] at skipped
        exact ⟨limit, skipped⟩
      rw [Reader.value] at read
      split at read <;> rename_i start
      · cases read
      · rw [skipValue, start] at skipped
        exact word_passed read skipped
      · rw [skipValue, start] at skipped
        exact word_passed read skipped
      · rw [skipValue, start] at skipped
        exact word_passed read skipped
      · rw [skipValue, start] at skipped
        obtain ⟨content, read, _⟩ := mapReading_ok_iff.mp read
        obtain ⟨left, taken, skipped⟩ := bind_ok_iff.mp skipped
        obtain rfl := skipString_stringRest read taken
        exact ⟨limit, skipped⟩
      · rw [skipValue, start] at skipped
        split at read
        · cases read
        · obtain ⟨content, read, _⟩ := mapReading_ok_iff.mp read
          exact below.items read skipped
      · rw [skipValue, start] at skipped
        split at read
        · cases read
        · obtain ⟨content, read, _⟩ := mapReading_ok_iff.mp read
          exact below.fields read skipped
      · split at read
        · rename_i numeric
          obtain ⟨content, read, _⟩ := mapReading_ok_iff.mp read
          rcases numeric with rfl | digit
          · rw [skipValue, start] at skipped
            obtain ⟨left, taken, skipped⟩ := bind_ok_iff.mp skipped
            cases (skipNumber_unsigned read).symm.trans taken
            exact ⟨limit, skipped⟩
          · rw [skipValue_digit start digit, skipNumber_number digit read] at skipped
            exact ⟨limit, skipped⟩
        · cases read

theorem Skips.succ_items (below : Skips bound) {found : List Json}
    (read : Reader.items (bound + 1) room first text = .ok (found, rest))
    (skipped : skipRest limit (.list :: brackets) (!first) text = .ok out)
    : ∃ limit, skipRest limit brackets true rest = .ok out := by
  rw [Reader.items] at read
  split at read
  · cases read
  · rename_i next
    cases read
    rcases nextItem_ok_cases next with ⟨_, close, same⟩ | ⟨_, _, _, _, _, same⟩ | ⟨_, _, _, same⟩
    · cases same
      exact ⟨limit, skipRest_list_end _ close ▸ skipped⟩
    · cases same
    · cases same
  · rename_i item next
    split at read
    · cases read
    · rename_i head left readItem
      obtain ⟨more, readMore, _⟩ := mapReading_ok_iff.mp read
      have skippedItem : skipValue limit (.list :: brackets) item = .ok out := by
        rcases nextItem_ok_cases next with
          ⟨_, _, same⟩ | ⟨c, inner, rfl, other, start, same⟩ | ⟨inner, rfl, start, same⟩
        · cases same
        · cases same
          exact (skipRest_first_item other start).symm.trans skipped
        · cases same
          exact skipValue_of_skipBlank ((skipRest_next_item start).symm.trans skipped)
      obtain ⟨limit, skipped⟩ := below.value readItem skippedItem
      exact below.items readMore skipped

theorem Skips.succ_fields (below : Skips bound) {seen found : Fields}
    (read : Reader.fields (bound + 1) room first seen text = .ok (found, rest))
    (skipped : skipRest limit (.object :: brackets) (!first) text = .ok out)
    : ∃ limit, skipRest limit brackets true rest = .ok out := by
  rw [Reader.fields] at read
  split at read
  · cases read
  · rename_i next
    cases read
    rcases nextName_ok_cases next with ⟨_, close, same⟩ | ⟨_, _, _, same⟩ | ⟨_, _, _, _, _, same⟩
    · cases same
      exact ⟨limit, skipRest_object_end _ close ▸ skipped⟩
    · cases same
    · cases same
  · rename_i inner next
    split at read
    · cases read
    · rename_i name left named
      split at read
      · cases read
      · rename_i after separated
        split at read
        · cases read
        · rename_i item behind readItem
          have skippedItem : skipValue limit (.object :: brackets) after = .ok out := by
            rcases nextName_ok_cases next with
              ⟨_, _, same⟩ | ⟨_, rfl, start, same⟩ | ⟨more, _, rfl, start, quote, same⟩
            · cases same
            · cases same
              obtain ⟨reached, taken, skipped⟩ :=
                bind_ok_iff.mp ((skipRest_first_name start).symm.trans skipped)
              exact skipName_rest rfl named separated taken ▸ skipped
            · cases same
              obtain ⟨reached, taken, skipped⟩ :=
                bind_ok_iff.mp ((skipRest_next_name start).symm.trans skipped)
              exact skipName_rest quote named separated taken ▸ skipped
          obtain ⟨limit, skipped⟩ := below.value readItem skippedItem
          exact below.fields read skipped

/-- By induction on the bound, for values, items and fields at once. -/
theorem skips (bound : Nat) : Skips bound := by
  induction bound with
  | zero =>
      constructor
      case value => intro room limit brackets text rest out found read; cases read
      case items => intro room limit first brackets text rest out found read; cases read
      case fields => intro room limit first brackets text rest out seen found read; cases read
  | succ bound ih =>
      constructor
      case value => exact fun read skipped => ih.succ_value read skipped
      case items => exact fun read skipped => ih.succ_items read skipped
      case fields => exact fun read skipped => ih.succ_fields read skipped

/-- A value that is read and skipped ends at one place. -/
theorem typedIgnored_rest {found : Json} (read : Reader.value bound room text = .ok (found, rest))
    (skipped : typedIgnored text = .ok ((), out))
    : out = rest := by
  obtain ⟨left, taken, same⟩ := bind_ok_iff.mp skipped
  cases same
  obtain ⟨limit, skipped⟩ := (skips bound).value read taken
  rw [skipRest_nil] at skipped
  exact (Except.ok.inj skipped).symm

end MessageCard.Json.Reader
