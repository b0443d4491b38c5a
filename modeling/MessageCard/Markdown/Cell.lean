import MessageCard.Text.Blank

/-!
The text of a paragraph as cells.  A line ending is one cell, which also holds the margin of
the next line: the markers of the containers around the paragraph.  Most constructs look
through margins; some keep them as they stand.
-/

namespace MessageCard.Markdown

/-- The start of a line: the markers of the containers around the paragraph, and whether the
line leaves them at an item, being indented less than that. -/
structure Margin where
  text : List Char
  short : Bool
deriving DecidableEq, Repr

/-- A character of a paragraph, or a line ending with the margin after it. -/
inductive Cell
  | char (c : Char)
  | lineEnd (ending : List Char) (margin : Margin)
deriving DecidableEq, Repr

/-- The blanks of a line. -/
def isSpace (c : Char) : Bool :=
  c == ' ' || c == '\t' || c.toNat == 0x0B || c.toNat == 0x0C

/-- The blanks with which a line may be indented. -/
def isIndent (c : Char) : Bool :=
  c == ' ' || c == '\t'

/-- The blanks of a line, and the characters that end it. -/
def isSpaceOrEnd (c : Char) : Bool :=
  isSpace c || c == '\n' || c == '\r'

namespace Cell

/-- Whether the cell is one given character. -/
def isChar (c : Char) : Cell → Bool
  | char d => c == d
  | lineEnd _ _ => false

/-- Whether the cell is a character that satisfies the test. -/
def charIs (test : Char → Bool) : Cell → Bool
  | char c => test c
  | lineEnd _ _ => false

/-- Whether the cell is a line ending. -/
def isLineEnd : Cell → Bool
  | char _ => false
  | lineEnd _ _ => true

/-- Whether the cell is a blank or a line ending. -/
def isBlank : Cell → Bool
  | char c => isSpaceOrEnd c
  | lineEnd _ _ => true

/-- The characters of the cell, with the margin. -/
def verbatim : Cell → List Char
  | char c => [c]
  | lineEnd ending margin => ending ++ margin.text

/-- The characters of the cell, without the margin. -/
def unmargined : Cell → List Char
  | char c => [c]
  | lineEnd ending _ => ending

/-- The characters of the cell, each character of a line ending being a space. -/
def spaced : Cell → List Char
  | char c => [c]
  | lineEnd ending _ => ending.map fun _ => ' '

/-- The cells of characters on one line. -/
def ofChars (text : List Char) : List Cell :=
  text.map char

/-- The cells that were read to get from some cells to a later part of them. -/
def between (start rest : List Cell) : List Cell :=
  start.take (start.length - rest.length)

end Cell

end MessageCard.Markdown
