import MessageCard.Markdown.Cell

/-!
HTML tags inside markdown, as cells.  A start tag has attributes with or without values; blanks
and line endings separate them.
-/

namespace MessageCard.Markdown.RawTag

/-- Skips blanks and line endings. -/
def skipBlank (cells : List Cell) : List Cell :=
  cells.dropWhile Cell.isBlank

/-- Skips the blanks of a line. -/
def skipSpace (cells : List Cell) : List Cell :=
  cells.dropWhile (Cell.charIs isSpace)

/-- Whether a character may go on in the name of a tag. -/
def isNameRest (c : Char) : Bool :=
  c.isAlphanum || c == '-'

/-- Whether a character may start the name of an attribute. -/
def isAttributeStart (c : Char) : Bool :=
  c.isAlpha || c == '_' || c == ':'

/-- Whether a character may go on in the name of an attribute. -/
def isAttributeRest (c : Char) : Bool :=
  c.isAlphanum || c == '_' || c == ':' || c == '.' || c == '-'

/-- Whether a character may stand in a value without quotes. -/
def isBareValue (c : Char) : Bool :=
  !(c == '\'' || c == '"' || c == ' ' || c == '=' || c == '>' || c == '<' || c == '\x60' ||
    c == '\n' || c == '\r')

/-- Skips the value of an attribute. -/
def value? (cells : List Cell) : Option (List Cell) :=
  match cells with
  | .char c :: rest =>
      if c = '"' ∨ c = '\'' then
        match rest.dropWhile (!Cell.isChar c ·) with
        | _ :: after => some after
        | [] => none
      else if isBareValue c then some (cells.dropWhile (Cell.charIs isBareValue))
      else none
  | _ => none

/-- Skips an attribute: its name, and its value if there is one. -/
def attribute? (cells : List Cell) : Option (List Cell) :=
  match cells with
  | .char c :: rest =>
      if isAttributeStart c then
        let after := rest.dropWhile (Cell.charIs isAttributeRest)
        match skipBlank after with
        | .char '=' :: more => value? (skipBlank more)
        | _ => some after
      else none
  | _ => none

/-- Skips the attributes of a start tag up to its end.  The first argument bounds their
number. -/
def attributes? : Nat → List Cell → Option (List Cell)
  | 0, _ => none
  | bound + 1, cells =>
      let next := skipBlank cells
      match next with
      | [] => none
      | .char '/' :: _ => some next
      | .char '>' :: _ => some next
      | _ =>
          if next.length = cells.length then none
          else (attribute? next).bind (attributes? bound)

/-- Skips the name of a tag. -/
def name? (cells : List Cell) : Option (List Cell) :=
  match cells with
  | .char c :: rest =>
      if c.isAlpha then some (rest.dropWhile (Cell.charIs isNameRest)) else none
  | _ => none

/-- Skips the bracket that closes a tag. -/
def closing? : List Cell → Option (List Cell)
  | .char '>' :: rest => some rest
  | _ => none

/-- Skips a start tag or an end tag after its opening bracket. -/
def skip? : List Cell → Option (List Cell)
  | .char '/' :: rest => (name? rest).bind fun after => closing? (skipSpace after)
  | cells =>
      (name? cells).bind fun after =>
        (attributes? (after.length + 1) after).bind fun last =>
          match last with
          | .char '/' :: rest => closing? rest
          | rest => closing? rest

end MessageCard.Markdown.RawTag
