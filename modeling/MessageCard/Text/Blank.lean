import MessageCard.Text.CharSet

/-!
White space, by the Unicode property of that name, and trimming it off the ends of a text.
-/

namespace MessageCard.Text

/-- The characters of the Unicode property `White_Space`. -/
def blanks : CharSet where
  ranges := [(0x09, 0x0D), (0x20, 0x20), (0x85, 0x85), (0xA0, 0xA0), (0x1680, 0x1680),
    (0x2000, 0x200A), (0x2028, 0x2029), (0x202F, 0x202F), (0x205F, 0x205F),
    (0x3000, 0x3000)]

/-- Whether a character is white space. -/
def isBlank (c : Char) : Bool :=
  blanks.contains c

/-- Drops the elements at the end that satisfy the test. -/
def dropRight {α : Type} (test : α → Bool) (items : List α) : List α :=
  (items.reverse.dropWhile test).reverse

/-- Drops white space at the start. -/
def trimLeft (text : List Char) : List Char :=
  text.dropWhile isBlank

/-- Drops white space at the end. -/
def trimRight (text : List Char) : List Char :=
  dropRight isBlank text

/-- Drops white space at both ends. -/
def trim (text : List Char) : List Char :=
  trimRight (trimLeft text)

end MessageCard.Text
