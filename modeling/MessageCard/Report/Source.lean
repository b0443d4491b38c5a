import MessageCard.Text.Position
import MessageCard.Text.Width

/-!
A source text by lines, as reports quote it.  Offsets count bytes, columns of a position count
characters, and columns of the terminal count widths, where a tab reaches to the next multiple
of four.
-/

namespace MessageCard

/-- A line of a source: its number from 1, the offset at which it starts, and its characters
with the newline. -/
structure SourceLine where
  number : Nat
  start : Nat
  text : List Char
deriving DecidableEq, Repr

namespace SourceLine

/-- The lines of a text with the newlines that end them.  What follows the last newline is a
line too, even when it is empty. -/
def splitLines : List Char → List (List Char)
  | [] => [[]]
  | c :: rest =>
      if c = '\n' then ['\n'] :: splitLines rest
      else
        match splitLines rest with
        | [] => [[c]]
        | line :: more => (c :: line) :: more

/-- Numbers lines and gives them their offsets. -/
def place (number start : Nat) : List (List Char) → List SourceLine
  | [] => []
  | text :: more =>
      { number, start, text } :: place (number + 1) (start + utf8Length text) more

/-- The lines of a source. -/
def all (source : String) : List SourceLine :=
  place 1 0 (splitLines source.toList)

/-- The line in which an offset lies: the last that starts no later. -/
def find? (lines : List SourceLine) (offset : Nat) : Option SourceLine :=
  (lines.filter fun line => line.start ≤ offset).getLast?

/-- The number of characters that end within the first bytes of a text. -/
def wholeCharacters (bytes : Nat) : List Char → Nat
  | [] => 0
  | c :: rest => if c.utf8Size ≤ bytes then 1 + wholeCharacters (bytes - c.utf8Size) rest else 0

/-- The column of an offset in its line, from 1. -/
def column (line : SourceLine) (offset : Nat) : Nat :=
  1 + wholeCharacters (offset - line.start) line.text

/-- Whether a character is left out at the end of a quoted line. -/
def isEnding (c : Char) : Bool :=
  c == '\n' || c == '\r' || c.toNat == 0

/-- The characters of the line without its ending. -/
def shown (line : SourceLine) : List Char :=
  (line.text.reverse.dropWhile isEnding).reverse

end SourceLine

/-- A character of a quoted line: the bytes before it, its own bytes, and the columns it takes in
the terminal. -/
structure Glyph where
  char : Char
  offset : Nat
  size : Nat
  width : Nat
deriving DecidableEq, Repr

namespace Glyph

/-- The columns from one tab stop to the next. -/
def tabWidth : Nat :=
  4

/-- The columns that a character takes behind others. -/
def widthAt (column : Nat) (c : Char) : Nat :=
  if c = '\t' then tabWidth - column % tabWidth else Text.width c

/-- The characters of a line, from an offset and a column on. -/
def line (offset column : Nat) : List Char → List Glyph
  | [] => []
  | c :: rest =>
      let width := widthAt column c
      { char := c, offset, size := c.utf8Size, width } ::
        line (offset + c.utf8Size) (column + width) rest

/-- The character as it is quoted: a tab becomes blanks. -/
def quoted (glyph : Glyph) : List Char :=
  if glyph.char = '\t' then List.replicate glyph.width ' ' else [glyph.char]

/-- Whether the character has bytes from `start` on and before `stop`. -/
def meets (glyph : Glyph) (start stop : Nat) : Bool :=
  max glyph.offset start < min (glyph.offset + glyph.size) stop

end Glyph

end MessageCard
