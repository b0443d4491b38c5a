import MessageCard.Markdown.Cell
import MessageCard.Markdown.Entity
import MessageCard.Text.Caseless
import MessageCard.Text.Position
import MessageCard.Text.Punctuation

/-!
The parts of links: labels, targets, titles and definitions.  A definition gives a label a
target; labels are the same when they agree but for case.
-/

namespace MessageCard.Markdown

/-- Resolves the escapes and the named characters of a text.  The first argument bounds the
steps. -/
def unescaped : Nat → List Char → List Char
  | 0, text => text
  | bound + 1, text =>
      match text with
      | [] => []
      | '\\' :: c :: rest =>
          if Text.isAsciiPunctuation c then c :: unescaped bound rest
          else '\\' :: unescaped bound (c :: rest)
      | '&' :: rest =>
          match Entity.read? rest with
          | some (value, after) => value ++ unescaped bound after
          | none => '&' :: unescaped bound rest
      | c :: rest => c :: unescaped bound rest

/-- A target or a title with its escapes resolved. -/
def resolvedText (text : List Char) : String :=
  String.ofList (unescaped text.length text)

/-! ## Labels -/

/-- The most that a label may weigh. -/
def labelLimit : Nat :=
  1000

/-- A label as it is read: its characters in reverse, its weight, and whether all of them are
blanks.  Blanks, margins, escapes and the bytes of characters beyond ASCII have a weight.  An
escaped character of ASCII counts as a blank; a line ending may be one, and then the margin
after it belongs to the label. -/
structure LabelReading where
  seen : List Char
  weight : Nat
  isBlank : Bool

/-- The blanks that cells start with. -/
def leadingBlanks (cells : List Cell) : List Cell :=
  cells.takeWhile Cell.isBlank

/-- Adds a stretch of blanks to a label, as one space. -/
def LabelReading.addBlanks (reading : LabelReading) (blanks : List Cell) : LabelReading :=
  { reading with
    seen := ' ' :: reading.seen,
    weight := reading.weight + utf8Length (blanks.flatMap Cell.verbatim) }

/-- A label without the space at its start and at its end. -/
def LabelReading.label (reading : LabelReading) : List Char :=
  Text.dropRight (· == ' ') (reading.seen.reverse.dropWhile (· == ' '))

/-- Reads a label after its opening bracket: its text, and the rest after the closing bracket.
The first argument bounds the steps. -/
def readLabel : Nat → LabelReading → List Cell → Option (List Char × List Cell)
  | 0, _, _ => none
  | bound + 1, reading, cells =>
      if labelLimit ≤ reading.weight then none
      else
        match cells with
        | [] => none
        | .char '[' :: _ => none
        | .char ']' :: rest => if reading.isBlank then none else some (reading.label, rest)
        | .char '\\' :: .char c :: rest =>
            readLabel bound
              { seen := c :: '\\' :: reading.seen,
                weight := reading.weight + 1 + c.utf8Size,
                isBlank := reading.isBlank && c.toNat < 0x80 } rest
        | .char '\\' :: .lineEnd ending margin :: rest =>
            let escaped : LabelReading :=
              { reading with
                seen := (ending.take 1).reverse ++ '\\' :: reading.seen,
                weight := reading.weight + 2 }
            readLabel bound escaped
              (match ending.drop 1 with
                | [] => Cell.ofChars margin.text ++ rest
                | ending => .lineEnd ending margin :: rest)
        | cell :: rest =>
            if cell.isBlank then
              let blanks := leadingBlanks (cell :: rest)
              if 1 < blanks.countP Cell.isLineEnd then none
              else readLabel bound (reading.addBlanks blanks) (rest.drop (blanks.length - 1))
            else
              let size := utf8Length (cell.verbatim.filter fun c => 0x80 ≤ c.toNat)
              readLabel bound
                { seen := cell.unmargined.reverse ++ reading.seen,
                  weight := reading.weight + size,
                  isBlank := false } rest

/-- Reads a label after its opening bracket. -/
def label? (cells : List Cell) : Option (List Char × List Cell) :=
  let bound := (cells.flatMap Cell.verbatim).length + 1
  readLabel bound { seen := [], weight := 0, isBlank := true } cells

/-! ## Targets and titles -/

/-- Reads a target between angle brackets, after the first of them. -/
def bracketedTarget : List Cell → Option (List Char × List Cell)
  | [] => none
  | .lineEnd _ _ :: _ => none
  | .char '\\' :: .char c :: rest =>
      if Text.isAsciiPunctuation c then
        (bracketedTarget rest).map fun (text, after) => ('\\' :: c :: text, after)
      else (bracketedTarget (.char c :: rest)).map fun (text, after) => ('\\' :: text, after)
  | .char c :: rest =>
      if c = '<' then none
      else if c = '>' then some ([], rest)
      else (bracketedTarget rest).map fun (text, after) => (c :: text, after)

/-- How deep parentheses may be nested in a target. -/
def targetDepth : Nat :=
  32

/-- Reads a target without brackets up to a blank or control character, or a parenthesis that
it does not open.  The first argument is how deep parentheses may be nested, the second how
many are open. -/
def bareTarget (most : Nat) : Nat → List Cell → Option (List Char × List Cell)
  | opened, [] => if opened = 0 then some ([], []) else none
  | opened, .lineEnd ending margin :: rest =>
      if opened = 0 then some ([], .lineEnd ending margin :: rest) else none
  | opened, .char '\\' :: .char c :: rest =>
      if Text.isAsciiPunctuation c then
        (bareTarget most opened rest).map fun (text, after) => ('\\' :: c :: text, after)
      else
        (bareTarget most opened (.char c :: rest)).map fun (text, after) => ('\\' :: text, after)
  | opened, .char c :: rest =>
      if c.toNat ≤ 0x20 then if opened = 0 then some ([], .char c :: rest) else none
      else if c = '(' then
        if most < opened then none
        else (bareTarget most (opened + 1) rest).map fun (text, after) => (c :: text, after)
      else if c = ')' then
        match opened with
        | 0 => some ([], .char c :: rest)
        | opened + 1 =>
            (bareTarget most opened rest).map fun (text, after) => (c :: text, after)
      else (bareTarget most opened rest).map fun (text, after) => (c :: text, after)

/-- Reads a target, as it stands. -/
def target? (most : Nat) : List Cell → Option (List Char × List Cell)
  | .char '<' :: rest => bracketedTarget rest
  | cells => bareTarget most 0 cells

/-- Reads a title up to its closing mark, as it stands; a line ending is a newline. -/
def titleRest (opening closing : Char) : List Cell → Option (List Char × List Cell)
  | [] => none
  | .lineEnd _ _ :: rest =>
      (titleRest opening closing rest).map fun (text, after) => ('\n' :: text, after)
  | .char '\\' :: .char c :: rest =>
      if Text.isAsciiPunctuation c then
        (titleRest opening closing rest).map fun (text, after) => ('\\' :: c :: text, after)
      else
        (titleRest opening closing (.char c :: rest)).map fun (text, after) =>
          ('\\' :: text, after)
  | .char c :: rest =>
      if c = closing then some ([], rest)
      else if c = opening then none
      else (titleRest opening closing rest).map fun (text, after) => (c :: text, after)

/-- Reads a title, as it stands. -/
def title? : List Cell → Option (List Char × List Cell)
  | .char c :: rest =>
      if c = '"' ∨ c = '\'' then titleRest c c rest
      else if c = '(' then titleRest c ')' rest
      else none
  | _ => none

/-! ## Definitions -/

/-- Skips the blanks of a line. -/
def skipSpaces (cells : List Cell) : List Cell :=
  cells.dropWhile (Cell.charIs isSpace)

/-- Skips blanks and at most one line ending; also tells whether there was one. -/
def skipToNext (cells : List Cell) : Bool × List Cell :=
  match skipSpaces cells with
  | .lineEnd _ _ :: rest => (true, skipSpaces rest)
  | rest => (false, rest)

/-- What a label stands for: a target, and the weight of using it, which is the length of the
target and of the title. -/
structure Definition where
  target : String
  weight : Nat
deriving DecidableEq, Repr

/-- The definition with a target and a title, as they stand. -/
def Definition.of (target title : List Char) : Definition where
  target := resolvedText target
  weight := (resolvedText target).utf8ByteSize + (resolvedText title).utf8ByteSize

/-- What labels stand for. -/
abbrev Definitions := List (List Char × Definition)

namespace Definitions

/-- The form under which a label is known. -/
def key (label : List Char) : List Char :=
  Text.fold label

/-- The definition of a label. -/
def find? (definitions : Definitions) (label : List Char) : Option Definition :=
  definitions.lookup (key label)

/-- Adds a definition; the first of a label holds. -/
def add (definitions : Definitions) (label : List Char) (definition : Definition)
    : Definitions :=
  definitions ++ [(key label, definition)]

end Definitions

/-- Whether nothing is left of a line but blanks. -/
def atLineEnd (cells : List Cell) : Bool :=
  (skipSpaces cells).head?.all Cell.isLineEnd

/-- The end of a definition after its target: a title may follow, and nothing else may stand on
the last line.  When there is no title on the line after the target, the definition ends with
the target.  Gives the title and the rest. -/
def definitionEnd (cells : List Cell) : Option (List Char × List Cell) :=
  let (ended, next) := skipToNext cells
  let bare := ended || next.isEmpty
  if next.isEmpty then some ([], cells)
  else if !bare && next.length == cells.length then none
  else
    match (title? next).filter fun (_, rest) => atLineEnd rest with
    | some found => some found
    | none => if bare then some ([], cells) else none

/-- Reads a definition at the start of a paragraph: its label, what that stands for, and the
rest from the end of its last line on. -/
def definition? (cells : List Cell) : Option (List Char × Definition × List Cell) :=
  match cells with
  | .char '[' :: inside =>
      match label? inside with
      | some (label, .char ':' :: after) =>
          let start := (skipToNext after).2
          match target? targetDepth start with
          | none => none
          | some (target, rest) =>
              if rest.length = start.length then none
              else
                (definitionEnd rest).map fun (title, last) => (label, .of target title, last)
      | _ => none
  | _ => none

end MessageCard.Markdown
