import Mathlib.Tactic.IntervalCases
import MessageCard.Proofs.CompactText
import MessageCard.Proofs.OrderedFields

/-! Compact text that is read back.  A string is read back from its quoted form, whatever
follows, since each character is told from the marks that stand for it.  An object is read back
field by field when its names are in order, for then each field is put behind those read before.
-/

namespace MessageCard.Json

open Reader

-----------------------------------------------------------------------------------------
-- Strings
-----------------------------------------------------------------------------------------

/-- The digits that escape a control character spell its code. -/
theorem hexEscape_control {code : Nat} (control : code < 32) (rest : List Char)
    : hexEscape (['0', '0'] ++ (if code < 16 then ['0'] else []) ++ Nat.toDigits 16 code ++ rest)
      = .ok (code, rest) := by
  interval_cases code <;> rfl

theorem unicodeEscape_control {code : Nat} (control : code < 32) (rest : List Char)
    : unicodeEscape
          (['0', '0'] ++ (if code < 16 then ['0'] else []) ++ Nat.toDigits 16 code ++ rest)
      = .ok (Char.ofNat code, rest) := by
  rw [unicodeEscape, hexEscape_control control]
  change (if 0xDC00 ≤ code ∧ code ≤ 0xDFFF then _ else _) = _
  rw [if_neg (by omega), if_neg (by omega)]

/-- A character behind a backslash is read before the rest of its string. -/
theorem stringBody_escape (bound : Nat) {text rest : List Char} {c : Char}
    (read : escape text = .ok (c, rest))
    : stringBody (bound + 1) ('\\' :: text)
      = mapReading (c :: ·) (stringBody bound rest) := by
  rw [stringBody, if_neg (by decide), if_pos rfl, read]
  change (stringBody bound rest >>= fun read => .ok (c :: read.1, read.2)) = _
  rcases stringBody bound rest with failure | ⟨more, left⟩ <;> rfl

theorem escape_short {letter c : Char} (rest : List Char) (known : shortEscape? letter = some c)
    : escape (letter :: rest) = .ok (c, rest) := by
  have other : letter ≠ 'u' := by
    rintro rfl
    cases known
  rw [escape.eq_3 _ _ (by simpa using other), known]

/-- A character is read back from what stands for it in a string: cases on how it is written. -/
theorem stringBody_escapedChar (bound : Nat) (c : Char) (text : List Char)
    : stringBody (bound + 1) (escapedChar c ++ text)
      = mapReading (c :: ·) (stringBody bound text) := by
  have short (letter : Char) (known : shortEscape? letter = some c)
      : stringBody (bound + 1) (['\\', letter] ++ text)
        = mapReading (c :: ·) (stringBody bound text) :=
    stringBody_escape bound (escape_short text known)
  have number {digits : List Char} (spelled : unicodeEscape (digits ++ text) = .ok (c, text))
      : stringBody (bound + 1) ('\\' :: 'u' :: digits ++ text)
        = mapReading (c :: ·) (stringBody bound text) :=
    stringBody_escape bound spelled
  rw [escapedChar]
  split_ifs with quote backslash feed carriage tab back form early late
  · exact short '"' (by rw [quote]; rfl)
  · exact short '\\' (by rw [backslash]; rfl)
  · exact short 'n' (by rw [feed]; rfl)
  · exact short 'r' (by rw [carriage]; rfl)
  · exact short 't' (by rw [tab]; rfl)
  · exact short 'b' (by rw [← Char.ofNat_toNat c, back]; rfl)
  · exact short 'f' (by rw [← Char.ofNat_toNat c, form]; rfl)
  · have control : c.toNat < 32 := Nat.lt_trans early (by decide)
    have spelled := unicodeEscape_control control text
    rw [if_pos early, Char.ofNat_toNat] at spelled
    exact number spelled
  · have spelled := unicodeEscape_control late text
    rw [if_neg early, Char.ofNat_toNat] at spelled
    exact number spelled
  · rw [List.singleton_append, stringBody, if_neg quote, if_neg backslash, if_neg late]
    rcases stringBody bound text with failure | ⟨more, left⟩ <;> rfl

/-- A string is read back from what stands for its characters, by induction over them. -/
theorem stringBody_escaped {bound : Nat} {characters : List Char}
    (enough : characters.length < bound) (rest : List Char)
    : stringBody bound (characters.flatMap escapedChar ++ '"' :: rest)
      = .ok (characters, rest) := by
  induction characters generalizing bound with
  | nil =>
      obtain ⟨bound, rfl⟩ := Nat.exists_eq_succ_of_ne_zero (Nat.ne_zero_of_lt enough)
      rfl
  | cons c characters ih =>
      obtain ⟨bound, rfl⟩ := Nat.exists_eq_succ_of_ne_zero (Nat.ne_zero_of_lt enough)
      rw [List.flatMap_cons, List.append_assoc, stringBody_escapedChar,
        ih (Nat.lt_of_succ_lt_succ enough)]
      rfl

theorem escapedChar_ne_nil (c : Char) : escapedChar c ≠ [] := by
  rw [escapedChar]
  split_ifs <;> exact List.cons_ne_nil _ _

theorem length_le_escaped (characters : List Char)
    : characters.length ≤ (characters.flatMap escapedChar).length := by
  induction characters with
  | nil => exact Nat.le_refl _
  | cons c characters ih =>
      have := List.length_pos_iff.mpr (escapedChar_ne_nil c)
      rw [List.flatMap_cons, List.length_append, List.length_cons]
      omega

/-- A string is read back behind its opening quote, whatever follows. -/
theorem stringRest_quoted (text : String) (rest : List Char)
    : stringRest (text.toList.flatMap escapedChar ++ '"' :: rest) = .ok (text, rest) := by
  have enough
      : text.toList.length < (text.toList.flatMap escapedChar ++ '"' :: rest).length + 1 := by
    have := length_le_escaped text.toList
    rw [List.length_append]
    omega
  rw [stringRest, stringBody_escaped enough]
  exact congrArg (fun text => Except.ok (text, rest)) (String.ofList_toList)

theorem compactChars_string (text : String) (rest : List Char)
    : (string text).compactChars ++ rest
      = '"' :: (text.toList.flatMap escapedChar ++ '"' :: rest) := by
  simp [compactChars, quoteChars]

-----------------------------------------------------------------------------------------
-- Objects
-----------------------------------------------------------------------------------------

/-- The fields of an object as they are written up to its end; a comma stands before each that is
not the first.
-/
def membersChars : Bool → Fields → List Char
  | true, fields => List.intercalate [','] (fieldsChars fields)
  | false, fields => (fieldsChars fields).flatMap (',' :: ·)

variable {first : Bool} {name : String} {value : Json} {fields seen : Fields}

/-- Behind the first text each text has its comma, by induction over the texts. -/
theorem intercalate_cons (text : List Char) (texts : List (List Char))
    : List.intercalate [','] (text :: texts) = text ++ texts.flatMap (',' :: ·) := by
  induction texts generalizing text with
  | nil => simp
  | cons next texts ih =>
      rw [List.intercalate_cons_cons, ih, List.flatMap_cons, List.append_assoc]
      rfl

theorem compactChars_object (fields : Fields) (rest : List Char)
    : (object fields).compactChars ++ rest
      = '\x7b' :: (membersChars true fields ++ '\x7d' :: rest) := by
  rw [compactChars, membersChars, List.cons_append, List.append_assoc, List.singleton_append]

theorem membersChars_cons (first : Bool) (name : String) (value : Json) (fields : Fields)
    : membersChars first ((name, value) :: fields)
      = (if first then [] else [',']) ++ '"' :: (name.toList.flatMap escapedChar
          ++ '"' :: ':' :: (value.compactChars ++ membersChars false fields)) := by
  cases first <;> simp [membersChars, fieldsChars, intercalate_cons, quoteChars]

/-- Each field is written as at least one character. -/
theorem length_le_membersChars (first : Bool) (fields : Fields)
    : fields.length ≤ (membersChars first fields).length := by
  induction fields generalizing first with
  | nil => exact Nat.zero_le _
  | cons field fields ih =>
      have behind := ih false
      rw [membersChars_cons]
      simp only [List.length_append, List.length_cons]
      omega

theorem nextName_end (first : Bool) (rest : List Char)
    : nextName first (membersChars first [] ++ '\x7d' :: rest) = .ok (.finished rest) := by
  cases first <;> rfl

/-- What follows the opening quote of the first of the fields. -/
theorem nextName_members (first : Bool) (name : String) (value : Json) (fields : Fields)
    (rest : List Char)
    : nextName first (membersChars first ((name, value) :: fields) ++ rest)
      = .ok (.member (name.toList.flatMap escapedChar
          ++ '"' :: ':' :: (value.compactChars ++ (membersChars false fields ++ rest)))) := by
  rw [membersChars_cons]
  simp only [List.append_assoc, List.cons_append]
  cases first <;> rfl

theorem colon_spelled (text : List Char) : colon (':' :: text) = .ok text :=
  rfl

/-- A field is put behind others whose names come before its own. -/
theorem insertField_last (before : ∀ field ∈ seen, field.1 < name)
    : insertField name value seen = seen ++ [(name, value)] := by
  induction seen with
  | nil => rfl
  | cons field seen ih =>
      have earlier : field.1 < name := before field List.mem_cons_self
      rw [insertField, if_neg (not_lt_of_gt earlier), if_neg (ne_of_gt earlier),
        ih fun later member => before later (List.mem_cons_of_mem _ member)]
      rfl

/-- With more steps than its compact text has characters the value is read from it, whatever
follows.
-/
def ReadsBack (room : Nat) (value : Json) : Prop :=
  ∀ bound rest,
    value.compactChars.length < bound
    → Reader.value bound room (value.compactChars ++ rest) = .ok (value, rest)

/-- The fields of an object are read back in order, by induction over them. -/
theorem fields_members {bound room : Nat} (rest : List Char)
    (names : (seen ++ fields).Pairwise fun field later => field.1 < later.1)
    (each : ∀ field ∈ fields, field.2.ReadsBack room)
    (enough : (membersChars first fields).length < bound)
    : Reader.fields bound room first seen (membersChars first fields ++ '\x7d' :: rest)
      = .ok (seen ++ fields, rest) := by
  induction fields generalizing bound first seen with
  | nil =>
      obtain ⟨bound, rfl⟩ := Nat.exists_eq_succ_of_ne_zero (Nat.ne_zero_of_lt enough)
      rw [Reader.fields, nextName_end, List.append_nil]
  | cons field fields ih =>
      obtain ⟨bound, rfl⟩ := Nat.exists_eq_succ_of_ne_zero (Nat.ne_zero_of_lt enough)
      rcases field with ⟨name, value⟩
      rw [membersChars_cons] at enough
      simp only [List.length_append, List.length_cons] at enough
      have before : ∀ field ∈ seen, field.1 < name := fun field member =>
        (List.pairwise_append.mp names).2.2 field member (name, value) List.mem_cons_self
      have valueEnough : value.compactChars.length < bound := by omega
      have readValue := each (name, value) List.mem_cons_self bound
        (membersChars false fields ++ '\x7d' :: rest) valueEnough
      rw [List.append_cons] at names
      rw [Reader.fields, nextName_members]
      simp only [stringRest_quoted, colon_spelled, readValue, insertField_last before]
      rw [ih names (fun field member => each field (List.mem_cons_of_mem _ member)) (by omega),
        List.append_assoc, List.singleton_append]

theorem ReadsBack.of_string (room : Nat) (text : String) : (string text).ReadsBack room := by
  intro bound rest enough
  obtain ⟨bound, rfl⟩ := Nat.exists_eq_succ_of_ne_zero (Nat.ne_zero_of_lt enough)
  rw [compactChars_string, Reader.value]
  change mapReading string (stringRest _) = _
  rw [stringRest_quoted]
  rfl

/-- An object whose names are in order is read back when its values are. -/
theorem ReadsBack.of_object {room : Nat}
    (names : fields.Pairwise fun field later => field.1 < later.1)
    (each : ∀ field ∈ fields, field.2.ReadsBack room)
    : (object fields).ReadsBack (room + 1) := by
  intro bound rest enough
  obtain ⟨bound, rfl⟩ := Nat.exists_eq_succ_of_ne_zero (Nat.ne_zero_of_lt enough)
  have inOrder : (([] : Fields) ++ fields).Pairwise fun field later => field.1 < later.1 := names
  have inside : (membersChars true fields).length < bound := by
    rw [compactChars, ← membersChars, List.length_cons, List.length_append] at enough
    omega
  rw [compactChars_object, Reader.value]
  change mapReading object (Reader.fields bound room true [] _) = _
  rw [fields_members rest inOrder each inside]
  rfl

theorem ReadsBack.readText (back : value.ReadsBack nestingLimit)
    : Reader.readText value.compactChars = .ok value := by
  have whole := back (2 * value.compactChars.length + 2) [] (by omega)
  rw [List.append_nil] at whole
  rw [Reader.readText, whole]
  rfl

end MessageCard.Json
