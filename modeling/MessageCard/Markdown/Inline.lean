import MessageCard.Markdown.Block
import MessageCard.Markdown.Emphasis

/-!
Inline structure.  The cells of a paragraph are read from left to right: code, HTML and
automatic links come first, brackets are matched to links and images as they close, and what
is between brackets gets its emphasis resolved on its own.
-/

namespace MessageCard.Markdown

/-! ## Code -/

/-- Finds a run of exactly so many backticks; gives the cells before and after it.  The second
argument counts the backticks just passed, the third holds the cells passed, in reverse. -/
def closingTicks (count : Nat) : Nat → List Cell → List Cell → Option (List Cell × List Cell)
  | run, seen, [] => if run = count then some ((seen.drop count).reverse, []) else none
  | run, seen, cell :: rest =>
      if cell.isChar '\x60' then closingTicks count (run + 1) (cell :: seen) rest
      else if run = count then some ((seen.drop count).reverse, cell :: rest)
      else closingTicks count 0 (cell :: seen) rest

/-- The cells of code without the blanks of its last line, if they are all that the line has
before the closing backticks and are short of the indentation of an item. -/
def withoutShortLine (cells : List Cell) : List Cell :=
  let front := Text.dropRight (Cell.charIs isIndent) cells
  match front.getLast? with
  | some (.lineEnd _ margin) => if margin.short then front else cells
  | _ => cells

/-- The text of code: line endings are spaces, and one space is dropped at each end if both
ends have one, unless there are only spaces. -/
def codeText (cells : List Cell) : List Char :=
  let text := (withoutShortLine cells).flatMap Cell.spaced
  if text.head? = some ' ' ∧ text.getLast? = some ' ' ∧ text.any (· != ' ') then
    (text.drop 1).dropLast
  else text

/-! ## HTML and automatic links -/

/-- Skips cells up to the end of a text. -/
def skipPast (text : List Char) : List Cell → Option (List Cell)
  | [] => none
  | cell :: rest =>
      if ((cell :: rest).take text.length) == Cell.ofChars text then
        some (rest.drop (text.length - 1))
      else skipPast text rest

/-- Skips a section of character data after its opening: up to the first closing bracket, which
has to end it. -/
def characterData? (cells : List Cell) : Option (List Cell) :=
  let brackets := cells.dropWhile (!Cell.isChar ']' ·)
  match brackets.dropWhile (Cell.isChar ']') with
  | .char '>' :: rest => if brackets.isEmpty then none else some rest
  | _ => none

/-- Reads a declaration up to its closing bracket, for which the marker of a quote in a margin
may stand as well: its text, the rest, and whether that goes on in the middle of a margin. -/
def declaration? : List Cell → Option (List Char × List Cell × Bool)
  | [] => none
  | .char c :: rest =>
      if c = '>' then some (['>'], rest, false)
      else (declaration? rest).map fun (text, after) => (c :: text, after)
  | .lineEnd ending margin :: rest =>
      if margin.text.contains '>' then
        some (ending ++ margin.text.takeWhile (· != '>') ++ ['>'], rest, true)
      else (declaration? rest).map fun (text, after) => (ending ++ margin.text ++ text, after)

/-- Text that was read up to some cells, with its margins. -/
def upTo (cells rest : List Cell) : List Char × List Cell × Bool :=
  ((Cell.between cells rest).flatMap Cell.verbatim, rest, false)

/-- Reads inline HTML after its opening bracket: its text, the rest, and whether that goes on in
the middle of a margin.  Tags leave out their margins. -/
def inlineHtml? (cells : List Cell) : Option (List Char × List Cell × Bool) :=
  match cells with
  | .char '!' :: .char c :: rest =>
      if c = '-' then
        if rest.head?.any (Cell.isChar '-') then
          (skipPast "-->".toList (.char c :: rest)).map (upTo cells)
        else none
      else if c = '[' ∧ rest.take 6 = Cell.ofChars "CDATA[".toList then
        (characterData? (rest.drop 6)).map (upTo cells)
      else if c.isAlpha then
        (declaration? rest).map fun (text, after) => ('!' :: c :: text, after)
      else none
  | .char '?' :: rest => (skipPast "?>".toList rest).map (upTo cells)
  | _ =>
      (RawTag.skip? cells).map fun after =>
        ((Cell.between cells after).flatMap Cell.unmargined, after, false)

/-- The characters that cells start with, up to the first that fails the test. -/
def leadingChars (test : Char → Bool) : List Cell → List Char
  | .char c :: rest => if test c then c :: leadingChars test rest else []
  | _ => []

/-- Whether a character may go on in the scheme of an address. -/
def isSchemeRest (c : Char) : Bool :=
  c.isAlphanum || c == '.' || c == '-' || c == '+'

/-- Reads an address with a scheme up to its closing bracket. -/
def schemeAddress? (cells : List Cell) : Option (List Char) :=
  let scheme := leadingChars isSchemeRest cells
  let rest := cells.drop scheme.length
  if scheme.head?.any Char.isAlpha ∧ 2 ≤ scheme.length ∧ scheme.length ≤ 32 ∧
      rest.head?.any (Cell.isChar ':') then
    let text := leadingChars (fun c => 0x20 < c.toNat && c != '<' && c != '>') rest
    if (rest.drop text.length).head?.any (Cell.isChar '>') then some (scheme ++ text) else none
  else none

/-- Whether a character may stand in the local part of a mail address. -/
def isMailLocal (c : Char) : Bool :=
  c.isAlphanum || ".!#$%&'*+/=?^_\x60\x7b|\x7d~-".toList.contains c

/-- Whether text is a label of a domain: letters, digits and inner hyphens, at most 63. -/
def isDomainLabel (label : List Char) : Bool :=
  !label.isEmpty && label.length ≤ 63 && label.all (fun c => c.isAlphanum || c == '-') &&
    label.head? != some '-' && label.getLast? != some '-'

/-- Reads a mail address up to its closing bracket. -/
def mailAddress? (cells : List Cell) : Option (List Char) :=
  let name := leadingChars isMailLocal cells
  let rest := cells.drop name.length
  let domain := leadingChars (fun c => c.isAlphanum || c == '-' || c == '.') (rest.drop 1)
  if !name.isEmpty ∧ rest.head?.any (Cell.isChar '@') ∧
      (CharSet.splitAll (· == '.') domain).all isDomainLabel ∧
      (rest.drop (1 + domain.length)).head?.any (Cell.isChar '>') then
    some (name ++ '@' :: domain)
  else none

/-- Reads the address between angle brackets. -/
def address? (cells : List Cell) : Option (List Char) :=
  (schemeAddress? cells).or (mailAddress? cells)

/-! ## Links -/

/-- Reads the target of a link in parentheses, and a title after it, after the link's closing
bracket. -/
def inlineTarget? (cells : List Cell) : Option (String × List Cell) :=
  match cells with
  | .char '(' :: rest =>
      match target? targetDepth (skipToNext rest).2 with
      | none => none
      | some (target, after) =>
          let next := (skipToNext after).2
          let last :=
            match title? next with
            | some (_, afterTitle) => (skipToNext afterTitle).2
            | none => next
          match last with
          | .char ')' :: final => some (resolvedText target, final)
          | _ => none
  | _ => none

/-- An open bracket: whether it is that of an image, whether it may still become a link, the
markup before it, in reverse, and the cells after it. -/
structure Bracket where
  image : Bool
  active : Bool
  before : List Piece
  inside : List Cell

/-- Inline markup while it is read: the markup in the innermost bracket, in reverse; the open
brackets, innermost first; the character read last; how many blanks were read last; whether
blanks after what was read last would be lost; whether anything has been read that may be more
than text; how many cells follow the closing bracket of a label that led nowhere; and the weight
of definitions that references may still use up. -/
structure Scan where
  pieces : List Piece
  brackets : List Bracket
  last : Char
  blanks : Nat
  closed : Bool
  marked : Bool
  spent : Option Nat
  allowance : Nat

namespace Scan

/-- The start of some text on a line, after a number of blanks. -/
def start (indent allowance : Nat) : Scan :=
  { pieces := [], brackets := [], last := '\n', blanks := indent, closed := false,
    marked := false, spent := none, allowance }

/-- Adds a piece that ends with a character. -/
def push (scan : Scan) (piece : Piece) (last : Char) : Scan :=
  { scan with pieces := piece :: scan.pieces, last, blanks := 0, closed := false }

/-- Adds a piece that ends with a character, and takes no blanks after it. -/
def pushClosed (scan : Scan) (piece : Piece) (last : Char) : Scan :=
  { scan.push piece last with closed := true }

/-- Takes note of markup that may be more than text. -/
def mark (scan : Scan) : Scan :=
  { scan with marked := true }

/-- Adds a character as text. -/
def pushChar (scan : Scan) (c : Char) : Scan :=
  { scan with
    pieces := .char c :: scan.pieces,
    last := c,
    blanks := if isSpace c then scan.blanks + 1 else 0,
    closed := false }

/-- Adds a character that was escaped or repeated, as text. -/
def pushText (scan : Scan) (text : List Char) : Scan :=
  scan.push (.inline (.text text)) (text.getLast?.getD scan.last)

/-- Drops up to a number of blanks that were added last. -/
def dropBlanks : Nat → List Piece → List Piece
  | count + 1, .char c :: pieces =>
      if isSpace c then dropBlanks count pieces else .char c :: pieces
  | _, pieces => pieces

/-- Starts a line whose text comes after some blanks and markers. -/
def startLine (scan : Scan) (front : List Char) : Scan :=
  { scan with last := '\n', blanks := (front.reverse.takeWhile isSpace).length }

/-- Ends a line, and drops the indentation of the next.  A backslash before the ending makes the
break a hard one; else so do two blanks, and the blanks before the ending are dropped. -/
def endLine (scan : Scan) (escaped : Bool) (ending margin : List Char) (rest : List Cell)
    : Scan × List Cell :=
  let indentation := leadingChars isIndent rest
  let pieces :=
    if escaped then .inline (.hardBreak true) :: scan.pieces
    else
      .inline (if 2 ≤ scan.blanks then .hardBreak false else .softBreak) ::
        dropBlanks scan.blanks scan.pieces
  ({ scan with pieces, closed := false }.startLine (ending ++ margin ++ indentation),
    rest.drop indentation.length)

/-- Ends a text with blanks that are kept where text stands before them. -/
def finish (scan : Scan) (tail : List Char) : Scan :=
  if tail.isEmpty || scan.closed then scan
  else
    match scan.pieces with
    | .delimiter run :: before =>
        { scan with pieces := .delimiter { run with tail } :: before }
    | _ => scan.pushText tail

end Scan

/-- The markup of pieces, given in reverse.  Where anything may be more than text, a backslash
before a line ending that comes last is text. -/
def finalMarkup (marked : Bool) (pieces : List Piece) : List Inline :=
  match pieces with
  | .inline (.hardBreak true) :: before =>
      resolved ((if marked then .char '\\' :: before else pieces).reverse)
  | _ => resolved pieces.reverse

/-- The link or image of a bracket, with the markup in it in reverse. -/
def Bracket.link (bracket : Bracket) (target : String) (pieces : List Piece) : Inline :=
  let content := finalMarkup (pieces.any Piece.isDelimiter) pieces
  if bracket.image then .image content else .formatted (.link target) content

/-- The brackets around a link, which can no longer become links themselves. -/
def deactivated (brackets : List Bracket) : List Bracket :=
  brackets.map fun bracket => { bracket with active := bracket.active && bracket.image }

/-- The opening of a bracket as text, before the markup in it; all in reverse. -/
def Bracket.asText (bracket : Bracket) (pieces : List Piece) : List Piece :=
  pieces ++ .char '[' :: (if bracket.image then [.char '!'] else []) ++ bracket.before

/-- What a closing bracket refers to by a label: the label, and the cells after it; and how
many cells follow a label that stands after the bracket.  The opening bracket of that label may
be escaped. -/
def reference? (bracket : Bracket) (canRefer : Bool) (rest : List Cell)
    : Option (List Char × List Cell) × Option Nat :=
  let own :=
    match label? bracket.inside with
    | some (label, after) => if after.length = rest.length then some label else none
    | none => none
  let next : List Cell :=
    match rest with
    | .char '\\' :: .char '[' :: inside => .char '[' :: inside
    | _ => rest
  match next with
  | .char '[' :: .char ']' :: after =>
      (if canRefer then own.map (·, after) else none, none)
  | .char '[' :: inside =>
      match label? inside with
      | some (label, after) => (some (label, after), some after.length)
      | none => (if canRefer then own.map (·, rest) else none, none)
  | _ => (if canRefer then own.map (·, rest) else none, none)

/-- Closes a bracket; the rest is what follows the closing one. -/
def closeBracket (definitions : Definitions) (scan : Scan) (rest : List Cell)
    : Scan × List Cell :=
  match scan.brackets with
  | [] => (scan.pushChar ']', rest)
  | bracket :: outer =>
      let asText : Scan :=
        { scan with pieces := bracket.asText scan.pieces, brackets := outer }.pushChar ']'
      let before : Scan :=
        { scan with
          pieces := bracket.before,
          brackets := if bracket.image then outer else deactivated outer }
      let link (target : String) : Piece := .inline (bracket.link target scan.pieces)
      if !bracket.active then (asText, rest)
      else
        match inlineTarget? rest with
        | some (target, after) => (before.push (link target) ')', after)
        | none =>
            let (found, spent) := reference? bracket (scan.spent != some rest.length) rest
            let found := found.bind fun (label, after) =>
              if scan.allowance = 0 then none
              else (definitions.find? label).map (·, after)
            match found with
            | some (definition, after) =>
                ({ before with allowance := scan.allowance - definition.weight }.pushClosed
                  (link definition.target) ']', after)
            | none => ({ asText with spent := spent.or scan.spent }, rest)

/-- Opens a bracket. -/
def openBracket (scan : Scan) (image : Bool) (rest : List Cell) : Scan :=
  { scan with
    pieces := [],
    brackets := { image, active := true, before := scan.pieces, inside := rest } :: scan.brackets,
    last := '[',
    blanks := 0,
    closed := false }

/-- The character that stands after a place, or a newline at the end. -/
def nextChar : List Cell → Char
  | .char c :: _ => c
  | _ => '\n'

/-- Reads a run of backticks, of which the first may be escaped: code, if such a run follows,
else text. -/
def readTicks (scan : Scan) (escaped : Bool) (cells : List Cell) : Scan × List Cell :=
  let length := (leadingChars (· == '\x60') cells).length
  let rest := cells.drop length
  let count := if escaped then length - 1 else length
  let found := if count = 0 then none else closingTicks count 0 [] rest
  match found with
  | some (inside, after) =>
      let scan := if escaped then scan.pushText ['\x60'] else scan
      (scan.pushClosed (.inline (.code (codeText inside))) '\x60', after)
  | none => (scan.pushText (List.replicate length '\x60'), rest)

/-- Reads what follows an opening angle bracket: an automatic link, HTML, or text. -/
def readAngle (scan : Scan) (rest : List Cell) : Scan × List Cell :=
  match address? rest with
  | some address =>
      let link : Inline := .formatted (.link (String.ofList address)) [.text address]
      (scan.push (.inline link) '>', rest.drop (address.length + 1))
  | none =>
      match inlineHtml? rest with
      | some (text, after, inMargin) =>
          let html : Scan := scan.push (.inline (.html ('<' :: text))) '>'
          if inMargin then
            let indentation := leadingChars isIndent after
            (html.startLine indentation, after.drop indentation.length)
          else (html, after)
      | none => (scan.pushChar '<', rest)

/-- Reads a run of marks. -/
def readMarks (scan : Scan) (mark : Char) (cells : List Cell) : Scan × List Cell :=
  let length := (leadingChars (· == mark) cells).length
  let rest := cells.drop length
  let run := Delimiter.of mark length scan.last (nextChar rest)
  if run.isActive then (scan.mark.push (.delimiter run) mark, rest)
  else (scan.pushText (List.replicate length mark), rest)

/-- Reads what follows a backslash: a line ending, an escaped character, or text. -/
def readEscape (scan : Scan) (rest : List Cell) : Scan × List Cell :=
  match rest with
  | .lineEnd ending margin :: after => scan.endLine true ending margin.text after
  | .char c :: after =>
      if c = '\x60' then readTicks scan.mark true rest
      else if Text.isAsciiPunctuation c then (scan.pushText [c], after)
      else (scan.pushChar '\\', rest)
  | [] => (scan.pushChar '\\', rest)

/-- Reads what follows an ampersand: a named character, or text. -/
def readAmpersand (scan : Scan) (rest : List Cell) : Scan × List Cell :=
  let text := leadingChars (fun _ => true) rest
  match Entity.read? text with
  | some (value, after) =>
      (scan.pushClosed (.inline (.text value)) ';', rest.drop (text.length - after.length))
  | none => (scan.pushChar '&', rest)

/-- Reads the markup that starts with a cell, and gives the cells left. -/
def readCell (definitions : Definitions) (scan : Scan) (cell : Cell) (rest : List Cell)
    : Scan × List Cell :=
  match cell with
  | .lineEnd ending margin => scan.endLine false ending margin.text rest
  | .char c =>
      if c = '\\' then readEscape scan rest
      else if c = '*' ∨ c = '_' ∨ c = '~' then readMarks scan c (cell :: rest)
      else if c = '\x60' then readTicks scan.mark false (cell :: rest)
      else if c = '<' ∧ nextChar rest ≠ '\\' then readAngle scan.mark rest
      else if c = '!' ∧ nextChar rest = '[' then
        (openBracket scan.mark true (rest.drop 1), rest.drop 1)
      else if c = '[' then (openBracket scan.mark false rest, rest)
      else if c = ']' then closeBracket definitions scan.mark rest
      else if c = '&' then readAmpersand scan rest
      else (scan.pushChar c, rest)

/-- Reads cells to their end.  The first argument bounds the steps. -/
def scanCells (definitions : Definitions) : Nat → Scan → List Cell → Scan
  | 0, scan, _ => scan
  | _ + 1, scan, [] => scan
  | bound + 1, scan, cell :: rest =>
      let (next, left) := readCell definitions scan cell rest
      scanCells definitions bound next left

/-- The markup with all open brackets as text; all in reverse. -/
def closeAll (pieces : List Piece) (brackets : List Bracket) : List Piece :=
  brackets.foldl (fun pieces bracket => bracket.asText pieces) pieces

/-- The inline structure of some text, and what is left of the weight of definitions that
references may use up, which is given. -/
def inlineOf (definitions : Definitions) (allowance : Nat) (source : Source)
    : List Inline × Nat :=
  let start := Scan.start source.indent allowance
  let scan := scanCells definitions (source.cells.length + 1) start source.cells
  let final := scan.finish source.tail
  (finalMarkup final.marked (closeAll final.pieces final.brackets), final.allowance)

end MessageCard.Markdown
