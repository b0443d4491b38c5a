import MessageCard.Markdown.Cell

/-!
Lines of a text, and a cursor that moves over the indentation of a line by columns.  A tab
reaches to the next multiple of four columns and may be used up in parts.
-/

namespace MessageCard.Markdown

/-- A line and the characters that end it; only the last line may have none. -/
structure Line where
  text : List Char
  ending : List Char
deriving DecidableEq, Repr

namespace Line

/-- Puts a character before the first line. -/
def consChar (c : Char) : List Line → List Line
  | [] => [{ text := [c], ending := [] }]
  | line :: rest => { line with text := c :: line.text } :: rest

/-- The lines of a text, which end with a newline, a carriage return or both. -/
def split : List Char → List Line
  | [] => []
  | '\r' :: '\n' :: rest => { text := [], ending := ['\r', '\n'] } :: split rest
  | c :: rest =>
      if c = '\n' ∨ c = '\r' then { text := [], ending := [c] } :: split rest
      else consChar c (split rest)

/-- Takes lines up to the first that ends with a newline: a carriage return alone does not
end a line of code. -/
def takeRaw (first : List Char) (ending : List Char) : List Line → List Char × List Line
  | [] => (first ++ ending, [])
  | line :: rest =>
      if ending = ['\r'] then takeRaw (first ++ ending ++ line.text) line.ending rest
      else (first ++ ending, line :: rest)

end Line

/-- Whether a line holds nothing but blanks. -/
def isBlankText (text : List Char) : Bool :=
  text.all isSpace

/-- A place in the indentation of a line: the characters left, how many were taken, how many
had been taken after the last tab, and the columns of that tab not yet used. -/
structure Cursor where
  rest : List Char
  taken : Nat
  afterTab : Nat
  spare : Nat
deriving DecidableEq, Repr

namespace Cursor

/-- The start of a line. -/
def start (text : List Char) : Cursor :=
  { rest := text, taken := 0, afterTab := 0, spare := 0 }

/-- Takes up to a number of columns of characters; also gives the columns that were lacking. -/
def takeColumns (columns taken afterTab : Nat) : List Char → Nat × Cursor
  | [] => (columns, { rest := [], taken, afterTab, spare := 0 })
  | c :: rest =>
      if columns = 0 then (0, { rest := c :: rest, taken, afterTab, spare := 0 })
      else if c = ' ' then takeColumns (columns - 1) (taken + 1) afterTab rest
      else if c = '\t' then
        let width := 4 - (taken - afterTab) % 4
        if width ≤ columns then takeColumns (columns - width) (taken + 1) (taken + 1) rest
        else (0, { rest, taken := taken + 1, afterTab := taken + 1, spare := width - columns })
      else (columns, { rest := c :: rest, taken, afterTab, spare := 0 })

/-- Skips up to a number of columns of blanks, first those left of a tab; also gives the
columns that were lacking. -/
def skip (cursor : Cursor) (columns : Nat) : Nat × Cursor :=
  if columns ≤ cursor.spare then (0, { cursor with spare := cursor.spare - columns })
  else takeColumns (columns - cursor.spare) cursor.taken cursor.afterTab cursor.rest

/-- Skips up to a number of columns of blanks; also gives the columns that were skipped. -/
def skipUpTo (cursor : Cursor) (columns : Nat) : Nat × Cursor :=
  let (lacking, next) := cursor.skip columns
  (columns - lacking, next)

/-- Whether the line has ended. -/
def isAtEnd (cursor : Cursor) : Bool :=
  cursor.rest.isEmpty

/-- Takes characters of a marker. -/
def advance (cursor : Cursor) (count : Nat) : Cursor :=
  { cursor with rest := cursor.rest.drop count, taken := cursor.taken + count }

/-- Skips the marker of a quote and one column after it. -/
def quoteMarker? (cursor : Cursor) : Option Cursor :=
  match cursor.rest with
  | '>' :: _ => some ((cursor.advance 1).skip 1).2
  | _ => none

end Cursor

end MessageCard.Markdown
