import MessageCard.Text.CharSet

/-!
The characters of TOML text: blanks, line ends, comments and the four kinds of strings.
-/

namespace MessageCard.Toml

/-- A reader: it takes something off the text, or refuses it. -/
abbrev Scan (α : Type) := List Char → Option (α × List Char)

/-- The blanks inside a line. -/
def isSpace (c : Char) : Bool :=
  c == ' ' || c == '\t'

/-- Whether a character may stand in a comment or a string: a tab, or no control character. -/
def isPlain (c : Char) : Bool :=
  c == '\t' || (' ' ≤ c && c.toNat != 0x7F)

/-- Skips the blanks inside a line. -/
def skipSpace (text : List Char) : List Char :=
  text.dropWhile isSpace

/-- The text after a line end; none when it does not start with one. -/
def afterNewline? : List Char → Option (List Char)
  | '\n' :: rest => some rest
  | '\r' :: '\n' :: rest => some rest
  | _ => none

/-- Reads the end of a line: blanks, a comment, and a line end or the end of the text. -/
def lineEnd? (text : List Char) : Option (List Char) :=
  let rest :=
    match skipSpace text with
    | '#' :: comment => comment.dropWhile isPlain
    | rest => rest
  if rest.isEmpty then some [] else afterNewline? rest

/-- Skips blanks, line ends and comments. -/
def skipGap (inComment : Bool) : List Char → List Char
  | [] => []
  | c :: rest =>
      if inComment && isPlain c then skipGap true rest
      else if c = '#' then skipGap true rest
      else if isSpace c || c == '\n' then skipGap false rest
      else if c = '\r' ∧ rest.head? = some '\n' then skipGap false rest
      else c :: rest

/-! ## Escapes -/

/-- Reads a character by the hexadecimal digits of its code point. -/
def codePoint (digits : Nat) : Scan Char := fun text =>
  let spelled := text.take digits
  if spelled.length = digits ∧ spelled.all fun c => (CharSet.hexDigit? c).isSome then
    let code := CharSet.hexNumber spelled
    if code.isValidChar then some (Char.ofNat code, text.drop digits) else none
  else none

/-- Reads an escape after its backslash. -/
def escape : Scan Char
  | 'b' :: rest => some (Char.ofNat 8, rest)
  | 'f' :: rest => some (Char.ofNat 12, rest)
  | 'n' :: rest => some ('\n', rest)
  | 'r' :: rest => some ('\r', rest)
  | 't' :: rest => some ('\t', rest)
  | '\\' :: rest => some ('\\', rest)
  | '"' :: rest => some ('"', rest)
  | 'u' :: rest => codePoint 4 rest
  | 'U' :: rest => codePoint 8 rest
  | _ => none

/-! ## Strings -/

/-- A kind of string: its quotation mark, and whether a backslash starts an escape. -/
structure Quotation where
  mark : Char
  hasEscapes : Bool

/-- Strings with escapes. -/
def basic : Quotation where
  mark := '"'
  hasEscapes := true

/-- Strings that hold what is written. -/
def literal : Quotation where
  mark := Char.ofNat 0x27
  hasEscapes := false

/-- Reads a string on one line up to its closing mark.  The first argument bounds it. -/
def lineBody (quotation : Quotation) : Nat → Scan (List Char)
  | 0, _ => none
  | _ + 1, [] => none
  | bound + 1, c :: rest =>
      if c = quotation.mark then some ([], rest)
      else if c = '\\' ∧ quotation.hasEscapes then do
        let (meaning, rest) ← escape rest
        let (more, rest) ← lineBody quotation bound rest
        some (meaning :: more, rest)
      else if isPlain c then do
        let (more, rest) ← lineBody quotation bound rest
        some (c :: more, rest)
      else none

/-- Skips blanks and line ends. -/
def skipLines : List Char → List Char
  | [] => []
  | c :: rest =>
      if isSpace c || c == '\n' then skipLines rest
      else if c = '\r' ∧ rest.head? = some '\n' then skipLines rest
      else c :: rest

/-- The text after a line end that a backslash hides, with the blanks around it. -/
def afterHiddenNewline? (text : List Char) : Option (List Char) :=
  (afterNewline? (skipSpace text)).map skipLines

/-- Reads a string over several lines up to its three closing marks, of which up to two more
belong to the string.  The first argument bounds it. -/
def blockBody (quotation : Quotation) : Nat → Scan (List Char)
  | 0, _ => none
  | _ + 1, [] => none
  | bound + 1, c :: rest =>
      let marks := ((c :: rest).takeWhile (· == quotation.mark)).length
      if 3 ≤ marks then
        let kept := min (marks - 3) 2
        some (List.replicate kept quotation.mark, (c :: rest).drop (kept + 3))
      else if c = '\\' ∧ quotation.hasEscapes then
        match afterHiddenNewline? rest with
        | some rest => blockBody quotation bound rest
        | none => do
            let (meaning, rest) ← escape rest
            let (more, rest) ← blockBody quotation bound rest
            some (meaning :: more, rest)
      else
        match afterNewline? (c :: rest) with
        | some rest => do
            let (more, rest) ← blockBody quotation bound rest
            some ('\n' :: more, rest)
        | none =>
            if isPlain c then do
              let (more, rest) ← blockBody quotation bound rest
              some (c :: more, rest)
            else none

/-- Reads a string on one line after its opening mark. -/
def lineString (quotation : Quotation) : Scan String := fun text => do
  let (characters, rest) ← lineBody quotation (text.length + 1) text
  some (String.ofList characters, rest)

/-- Reads a string over several lines after its opening marks; a line end right after them is
dropped. -/
def blockString (quotation : Quotation) : Scan String := fun text => do
  let body := (afterNewline? text).getD text
  let (characters, rest) ← blockBody quotation (body.length + 1) body
  some (String.ofList characters, rest)

/-- Reads a string of either length after its first mark. -/
def stringAfter (quotation : Quotation) : Scan String := fun text =>
  match text with
  | c :: d :: rest =>
      if c = quotation.mark ∧ d = quotation.mark then blockString quotation rest
      else lineString quotation text
  | _ => lineString quotation text

end MessageCard.Toml
