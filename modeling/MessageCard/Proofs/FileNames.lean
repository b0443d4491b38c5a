import Mathlib.Data.List.Lex
import Mathlib.Data.String.Basic
import MessageCard.Suite.Basic

/-! Names that are texts.  Such a name is read back as its text and shown as it, so that the category
of a fixture is what the texts of its folders say.  Names as a whole are in the order of their bytes.
-/

namespace MessageCard

-----------------------------------------------------------------------------------------
-- Bytes of characters
-----------------------------------------------------------------------------------------

namespace Text

theorem CharStart.ofByte?_two (byte : Nat) (above : 0xC2 ≤ byte) (below : byte < 0xE0)
    : ofByte? byte = some { number := byte - 0xC0, later := 0 } := by
  rw [ofByte?, if_neg (by omega), if_pos below]

theorem CharStart.ofByte?_three (byte : Nat) (above : 0xE0 ≤ byte) (below : byte < 0xF0)
    : ofByte? byte
      = some
          {
            number := byte - 0xE0,
            later := 1,
            low := if byte = 0xE0 then 0xA0 else 0x80,
            high := if byte = 0xED then 0x9F else 0xBF
          } := by
  rw [ofByte?, if_neg (by omega), if_neg (by omega), if_pos below]

theorem CharStart.ofByte?_four (byte : Nat) (above : 0xF0 ≤ byte) (below : byte < 0xF5)
    : ofByte? byte
      = some
          {
            number := byte - 0xF0,
            later := 2,
            low := if byte = 0xF0 then 0x90 else 0x80,
            high := if byte = 0xF4 then 0x8F else 0xBF
          } := by
  rw [ofByte?, if_neg (by omega), if_neg (by omega), if_neg (by omega), if_pos below]

theorem toNat_byte {number : Nat} (below : number < 256) : (UInt8.ofNat number).toNat = number := by
  rw [UInt8.toNat_ofNat', Nat.mod_eq_of_lt below]

theorem shownBytes_start {number : Nat} {start : CharStart} (above : 0x80 ≤ number)
    (below : number < 256) (opens : CharStart.ofByte? number = some start) (rest : List UInt8)
    : shownBytes none (UInt8.ofNat number :: rest) = shownBytes (some start) rest := by
  rw [shownBytes, toNat_byte below, firstByte, if_neg (Nat.not_lt.mpr above), opens]
  rfl

section Following

/-! A byte after the first has the next six bits of a number, of which those before were read. -/

variable {start : CharStart} {number : Nat} (read : start.number = number / 64)
  (within : start.low ≤ number % 64 + 128 ∧ number % 64 + 128 ≤ start.high) (rest : List UInt8)

include read within

theorem shownBytes_last (last : start.later = 0)
    : shownBytes (some start) (UInt8.ofNat (number % 64 + 128) :: rest)
      = Char.ofNat number :: shownBytes none rest := by
  have value : start.number * 64 + (number % 64 + 128 - 0x80) = number := by omega
  rw [shownBytes, toNat_byte (by omega), CharStart.nextByte, if_pos within, value, last]
  rfl

theorem shownBytes_more {later : Nat} (more : start.later = later + 1)
    : shownBytes (some start) (UInt8.ofNat (number % 64 + 128) :: rest)
      = shownBytes (some { number, later }) rest := by
  have value : start.number * 64 + (number % 64 + 128 - 0x80) = number := by omega
  rw [shownBytes, toNat_byte (by omega), CharStart.nextByte, if_pos within, value, more]
  rfl

end Following

/-- The bytes of a character are shown as it, by cases on how many there are. -/
theorem shownBytes_encoded (c : Char) (rest : List UInt8)
    : shownBytes none (String.utf8EncodeChar c ++ rest) = c :: shownBytes none rest := by
  have same : Char.ofNat c.val.toNat = c := c.ofNat_toNat
  have valid : c.val.toNat < 0xD800 ∨ 0xDFFF < c.val.toNat ∧ c.val.toNat < 0x110000 := c.valid
  rw [String.utf8EncodeChar]
  generalize c.val.toNat = number at same valid ⊢
  -- the bounds of the second byte are those of the numbers that take so many bytes
  split_ifs with one two three
  · rw [List.singleton_append, shownBytes, toNat_byte (by omega), firstByte, if_pos (by omega),
      same]
    rfl
  · have opens := CharStart.ofByte?_two (number / 64 % 32 + 192) (by omega) (by omega)
    simp only [List.cons_append, List.nil_append]
    rw [shownBytes_start (by omega) (by omega) opens,
      shownBytes_last (by dsimp only; omega) (by dsimp only; omega) _ rfl, same]
  · have opens := CharStart.ofByte?_three (number / 4096 % 16 + 224) (by omega) (by omega)
    simp only [List.cons_append, List.nil_append]
    rw [shownBytes_start (by omega) (by omega) opens,
      shownBytes_more (by dsimp only; omega) (by dsimp only; split_ifs <;> omega) _ rfl,
      shownBytes_last rfl (by dsimp only; omega) _ rfl, same]
  · have opens := CharStart.ofByte?_four (number / 262144 % 8 + 240) (by omega) (by omega)
    simp only [List.cons_append, List.nil_append]
    rw [shownBytes_start (by omega) (by omega) opens,
      shownBytes_more (by dsimp only; omega) (by dsimp only; split_ifs <;> omega) _ rfl,
      shownBytes_more (by dsimp only; omega) (by dsimp only; omega) _ rfl,
      shownBytes_last rfl (by dsimp only; omega) _ rfl, same]

/-- The bytes of a text are shown as it, by induction over its characters. -/
theorem ofBytes_utf8 (text : List Char) : ofBytes (utf8 text) = String.ofList text := by
  refine congrArg String.ofList ?_
  induction text with
  | nil => rfl
  | cons c text ih =>
      rw [utf8, List.flatMap_cons, shownBytes_encoded]
      exact congrArg (c :: ·) ih

end Text

-----------------------------------------------------------------------------------------
-- Names
-----------------------------------------------------------------------------------------

namespace FileName

/-- A name is a text exactly when it has the bytes of that text. -/
theorem text?_eq_some_iff {name : FileName} {text : String}
    : name.text? = some text ↔ name = text := by
  have bytes (text : String) : (utf8 text.toList).toByteArray = text.toByteArray :=
    String.utf8Encode_toList
  rw [text?, String.fromUTF8?]
  constructor
  · intro found
    split at found
    · rename_i valid
      obtain rfl := Option.some.inj found
      refine congrArg FileName.mk (List.toByteArray_inj.mp ?_)
      rw [bytes]
      rfl
    · cases found
  · rintro rfl
    simp only [ofText, bytes]
    rw [dif_pos text.isValidUTF8]
    rfl

/-- A name that is a text is shown as it. -/
theorem shown_of_text {name : FileName} {text : String} (same : name = text)
    : Text.ofBytes name.bytes = text := by
  rw [same, ofText, Text.ofBytes_utf8, String.ofList_toList]

/-- Names are in a linear order, as those with the same bytes are equal. -/
instance : LinearOrder FileName :=
  LinearOrder.lift' numbers fun first second same => by
    have each : Function.Injective UInt8.toNat := fun _ _ => UInt8.toNat_inj.mp
    exact congrArg FileName.mk (List.map_injective_iff.mpr each same)

/-- The bytes of names that are texts are those of the texts with slashes between them. -/
theorem joined_ofText (texts : List String)
    : joined (texts.map ofText) = utf8 ("/".intercalate texts).toList := by
  rw [joined, String.toList_intercalate]
  induction texts with
  | nil => rfl
  | cons first rest ih =>
      cases rest with
      | nil => exact (List.append_nil _).trans (congrArg utf8 (List.append_nil _).symm)
      | cons second more =>
          simp only [List.map_cons, List.intercalate_cons_cons] at ih ⊢
          rw [ih]
          simp only [utf8, List.flatMap_append]
          rfl

end FileName

/-- Where folders are texts, the category is these with slashes between them, and with backslashes
read as slashes.
-/
theorem FixtureFile.category_ofText {file : FixtureFile} {folders : List String}
    (texts : file.folders = folders.map FileName.ofText)
    : file.category = ("/".intercalate folders).map fun c => if c = '\\' then '/' else c := by
  rw [category, texts, FileName.joined_ofText, Text.ofBytes_utf8, String.ofList_toList]

end MessageCard
