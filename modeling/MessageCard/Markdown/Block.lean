import MessageCard.Markdown.LineStart
import MessageCard.Markdown.Reference

/-!
Block structure.  Lines are read one block at a time: the containers that the line continues,
those that it opens, and what stands in them.  Definitions are collected on the way.
-/

namespace MessageCard.Markdown

/-- Text that holds inline markup: how many blanks stand before it on its line, its cells, and
blanks that are kept after it. -/
structure Source where
  indent : Nat
  cells : List Cell
  tail : List Char
deriving DecidableEq, Repr

/-- A block of a document.  A heading that starts with number signs may be closed by some. -/
inductive Block
  | paragraph (source : Source)
  | heading (source : Source) (closed : Bool)
  | code (text : List Char)
  | html (text : List Char)
  | rule
  | quote (content : List Block)
  | item (content : List Block)
  | list (tight : Bool) (items : List Block)

/-- A block that holds other blocks, while it is open.  An item goes on with lines that are
indented so far; a list is told by the last character of its markers. -/
inductive Holder
  | quote
  | item (indent : Nat)
  | list (tight : Bool) (mark : Char)
deriving DecidableEq, Repr

/-- Whether the holder is an item of a list. -/
def Holder.isItem : Holder → Bool
  | item _ => true
  | _ => false

/-- The block of a holder and its content. -/
def Holder.block (holder : Holder) (content : List Block) : Block :=
  match holder with
  | quote => .quote content
  | item _ => .item content
  | list tight _ => .list tight content

/-- An open holder with its content, in reverse. -/
structure OpenBlock where
  holder : Holder
  content : List Block

/-- Blocks while they are read: the finished ones, in reverse; the open holders, innermost
first; whether the line before was blank, and whether an item was begun without content. -/
structure Reading where
  finished : List Block
  holders : List OpenBlock
  afterBlank : Bool
  atEmptyItem : Bool
  definitions : Definitions

namespace Reading

/-- Nothing read. -/
def empty : Reading :=
  { finished := [], holders := [], afterBlank := false, atEmptyItem := false,
    definitions := [] }

/-- Adds a block to the innermost holder. -/
def add (reading : Reading) (block : Block) : Reading :=
  match reading.holders with
  | [] => { reading with finished := block :: reading.finished }
  | inner :: outer =>
      { reading with holders := { inner with content := block :: inner.content } :: outer }

/-- Closes the innermost holder. -/
def close (reading : Reading) : Reading :=
  match reading.holders with
  | [] => reading
  | inner :: outer =>
      let closed := add { reading with holders := outer } (inner.holder.block inner.content.reverse)
      match inner.holder with
      | .list true _ => { closed with atEmptyItem := false }
      | _ => closed

/-- Closes a number of holders. -/
def closeMany : Nat → Reading → Reading
  | 0, reading => reading
  | count + 1, reading => closeMany count reading.close

/-- Opens a holder. -/
def «open» (reading : Reading) (holder : Holder) : Reading :=
  { reading with holders := { holder, content := [] } :: reading.holders }

/-- Closes an item that begins with two blank lines. -/
def closeEmptyItem (reading : Reading) : Reading :=
  let closed :=
    match reading.holders with
    | { holder := .item _, content := _ } :: _ =>
        if reading.atEmptyItem && reading.afterBlank then reading.close else reading
    | _ => reading
  { closed with atEmptyItem := false }

/-- Closes a list that is innermost. -/
def closeList (reading : Reading) : Reading :=
  match reading.holders with
  | { holder := .list _ _, content := _ } :: _ => reading.close
  | _ => reading

/-- The holders with the list around the innermost one made loose. -/
def loosened : List OpenBlock → List OpenBlock
  | inner :: { holder := .list _ mark, content } :: outer =>
      inner :: { holder := .list false mark, content } :: outer
  | holders => holders

/-- Prepares for a block that is no item: a list without a next item is closed, and a list
around a block after a blank line is loose. -/
def beforeBlock (reading : Reading) : Reading :=
  let closed := reading.closeEmptyItem.closeList
  if closed.afterBlank then
    { closed with holders := loosened closed.holders, afterBlank := false }
  else closed

/-- Prepares for an item: it continues the innermost list if that has such markers, else it
starts a list. -/
def beforeItem (reading : Reading) (mark : Char) : Reading :=
  let closed := reading.closeEmptyItem
  match closed.holders with
  | { holder := .list tight other, content } :: outer =>
      if other = mark then
        { closed with
          holders :=
            { holder := .list (tight && !closed.afterBlank) mark, content } :: outer,
          afterBlank := false }
      else { closed.beforeBlock.open (.list true mark) with afterBlank := false }
  | _ :: _ => { closed.beforeBlock.open (.list true mark) with afterBlank := false }
  | [] => { closed.open (.list true mark) with afterBlank := false }

/-- Takes note of a blank line.  An item that has begun without content cannot go on. -/
def blankLine (reading : Reading) : Reading :=
  match reading.holders with
  | [] => reading
  | { holder := .quote, content := _ } :: _ => reading
  | { holder := .item indent, content } :: outer =>
      { reading with
        holders :=
          { holder := .item (if reading.atEmptyItem then 0 else indent), content } :: outer,
        afterBlank := true }
  | _ :: _ => { reading with afterBlank := true }

end Reading

/-! ## Containers of a line -/

/-- Takes off a line what continues the holders, from the outermost on; also gives how many of
them go on. -/
def continueHolders (cursor : Cursor) : List Holder → Nat × Cursor
  | [] => (0, cursor)
  | holder :: rest =>
      let next :=
        match holder with
        | .quote => (cursor.skip 3).2.quoteMarker?
        | .item indent =>
            let (lacking, next) := cursor.skip indent
            if lacking = 0 ∨ next.isAtEnd then some next else none
        | .list _ _ => some cursor
      match next with
      | none => (0, cursor)
      | some next =>
          let (count, last) := continueHolders next rest
          (count + 1, last)

/-- The open holders, outermost first. -/
def Reading.path (reading : Reading) : List Holder :=
  reading.holders.reverse.map OpenBlock.holder

/-- What continues all of the holders is taken off the line, if it continues all of them. -/
def continueAll? (path : List Holder) (line : Line) : Option Cursor :=
  let (count, cursor) := continueHolders (.start line.text) path
  if count = path.length then some cursor else none

/-- What comes of the start of a line: it holds nothing else, or it goes on at a place. -/
inductive Opening
  | nothing
  | goesOn (cursor : Cursor)

/-- Opens the items and quotes that a line starts.  The first argument bounds their number. -/
def openHolders : Nat → Reading → Cursor → Reading × Opening
  | 0, reading, cursor => (reading, .goesOn cursor)
  | bound + 1, reading, cursor =>
      let (indent, inner) := cursor.skipUpTo 4
      if 4 ≤ indent then (reading, .goesOn cursor)
      else
        match inner.itemMarker? indent with
        | some (marker, column, next) =>
            let reading := (reading.beforeItem marker.mark).open (.item column)
            if isBlankText next.rest then ({ reading with atEmptyItem := true }, .nothing)
            else openHolders bound reading next
        | none =>
            match inner.quoteMarker? with
            | some next => openHolders bound (reading.beforeBlock.open .quote) next
            | none => (reading, .goesOn cursor)

/-! ## Blocks of lines -/

/-- A line of code or HTML: the columns of a tab that are left, then the text; a carriage
return before the last character is dropped. -/
def codeLine (spare : Nat) (raw : List Char) : List Char :=
  List.replicate spare ' ' ++
    match raw.reverse with
    | last :: '\r' :: rest =>
        if last.toNat < 0x80 then (last :: rest).reverse else raw
    | _ => raw

/-- Reads the lines of code that is indented, after its first line; blank lines at the end do
not belong to it.  The first argument bounds the lines; the third holds the blank lines that
come last so far.  Also tells whether there are any, and gives the lines left. -/
def indentedCode (path : List Holder) : Nat → List Char → List Line → List Char × Bool × List Line
  | 0, pending, lines => ([], !pending.isEmpty, lines)
  | _ + 1, pending, [] => ([], !pending.isEmpty, [])
  | bound + 1, pending, line :: rest =>
      match continueAll? path line with
      | none => ([], !pending.isEmpty, line :: rest)
      | some cursor =>
          let (lacking, next) := cursor.skip 4
          if lacking ≠ 0 ∧ !next.isAtEnd then ([], !pending.isEmpty, line :: rest)
          else
            let (raw, after) := Line.takeRaw next.rest line.ending rest
            let text := codeLine next.spare raw
            if isBlankText next.rest then indentedCode path bound (pending ++ text) after
            else
              let (more, blank, left) := indentedCode path bound [] after
              (pending ++ text ++ more, blank, left)

/-- Reads the lines of code in a fence up to its end, and gives the lines left.  Less than four
columns of blanks at the end of the text are not code.  The first argument bounds the lines. -/
def fencedCode (path : List Holder) (fence : Fence) (indent : Nat)
    : Nat → List Line → List Char × List Line
  | 0, lines => ([], lines)
  | _ + 1, [] => ([], [])
  | bound + 1, line :: rest =>
      match continueAll? path line with
      | none => ([], line :: rest)
      | some cursor =>
          let inner := (cursor.skip indent).2
          let (lacking, close) := inner.skip (4 - indent)
          let last := line.ending.isEmpty && close.isAtEnd
          if lacking ≠ 0 ∧ (last ∨ fence.isClosedBy close.rest) then ([], rest)
          else
            let (raw, after) := Line.takeRaw inner.rest line.ending rest
            let (more, left) := fencedCode path fence indent bound after
            (codeLine inner.spare raw ++ more, left)

/-- Whether a text holds another. -/
def holds (part : List Char) : List Char → Bool
  | [] => part.isEmpty
  | c :: rest => part.isPrefixOf (c :: rest) || holds part rest

/-- Reads the lines of a block of HTML after its first line, which is given, and gives the
lines left.  The first argument bounds the lines. -/
def htmlLines (path : List Holder) (finish : HtmlEnd)
    : Nat → List Char → List Line → List Char × List Line
  | 0, _, lines => ([], lines)
  | _ + 1, _, [] => ([], [])
  | bound + 1, last, line :: rest =>
      match continueAll? path line with
      | none => ([], line :: rest)
      | some cursor =>
          let ended :=
            match finish with
            | .holding text => holds text last
            | .blankLine => isBlankText cursor.rest
          let last := line.ending.isEmpty && cursor.isAtEnd
          if ended || last then ([], line :: rest)
          else
            let (raw, after) := Line.takeRaw cursor.rest line.ending rest
            let (more, left) := htmlLines path finish bound raw after
            (codeLine cursor.spare raw ++ more, left)

/-! ## Paragraphs -/

/-- What a line is to the paragraph before it. -/
inductive Continuation
  | text (margin : Margin) (text : List Char)
  | underline
  | other

/-- Which lines that look like underlines end a paragraph: those inside its containers, or all,
as for a definition. -/
inductive Underlining
  | inContainers
  | anywhere
deriving DecidableEq, Repr

/-- Whether a line, which may stand inside the containers of a paragraph, ends it if it looks
like an underline. -/
def Underlining.counts (underlining : Underlining) (inContainers : Bool) : Bool :=
  inContainers || underlining == .anywhere

/-- What a line is to the paragraph before it.  A line outside the containers of the paragraph
continues it too, if it starts nothing else. -/
def continuation (path : List Holder) (underlining : Underlining) (line : Line)
    (following : List Line) : Continuation :=
  let (count, cursor) := continueHolders (.start line.text) path
  let inContainers := count == path.length
  let (lacking, inner) := cursor.skip 4
  if lacking ≠ 0 ∧ underlining.counts inContainers ∧ isUnderline inner.rest then .underline
  else if lacking ≠ 0 ∧ interrupts { line with text := inner.rest } following inContainers then
    .other
  else if (cursor.rest.dropWhile isIndent).isEmpty then .other
  else
    let margin : Margin :=
      { text := line.text.take cursor.taken,
        short := path[count]?.any fun holder => holder.isItem }
    .text margin cursor.rest

/-- Reads the lines of a paragraph after its first line, whose ending is given.  Gives the
cells of these lines, whether the last is followed by an underline, and the lines left. -/
def paragraphLines (path : List Holder) (underlining : Underlining) (ending : List Char)
    : List Line → List Cell × Bool × List Line
  | [] => ([], false, [])
  | line :: rest =>
      match continuation path underlining line rest with
      | .other => ([], false, line :: rest)
      | .underline => ([], true, rest)
      | .text margin text =>
          let (cells, underlined, left) := paragraphLines path underlining line.ending rest
          (Cell.lineEnd ending margin :: Cell.ofChars text ++ cells, underlined, left)

/-- A paragraph, or a heading that is underlined.  Blanks at its end are dropped. -/
def paragraphBlock (indent : Nat) (cells : List Cell) (underlined : Bool) : Block :=
  let source : Source :=
    { indent, cells := Text.dropRight (Cell.charIs isSpace) cells, tail := [] }
  if underlined then .heading source false else .paragraph source

/-- The text of a line that goes on after a definition, with the blanks before it counted.
Nothing goes on when the line starts something else; otherwise the line need not stand inside
the containers of the definition. -/
def afterDefinition? (path : List Holder) (line : Line) (following : List Line)
    : Option (Nat × List Char) :=
  let (count, cursor) := continueHolders (.start line.text) path
  let (lacking, inner) := cursor.skip 4
  if lacking ≠ 0 ∧
      interrupts { line with text := inner.rest } following (count == path.length) then none
  else
    let text := cursor.rest.dropWhile isIndent
    let front := line.text.take (line.text.length - text.length)
    some ((front.reverse.takeWhile isSpace).length, text)

/-- Reads definitions, and the paragraph after them, if one follows.  The first line is given by
the blanks before its text, its text and its ending.  The first argument bounds the
definitions. -/
def readParagraph : Nat → Reading → Nat → Line → List Line → Reading × List Line
  | 0, reading, _, _, rest => (reading, rest)
  | bound + 1, reading, indent, line, rest =>
      let path := reading.path
      let first := Cell.ofChars line.text
      let more :=
        if line.text.head? = some '[' then (paragraphLines path .anywhere line.ending rest).1
        else []
      match definition? (first ++ more) with
      | some (label, definition, after) =>
          let reading :=
            { reading with definitions := reading.definitions.add label definition }
          match rest.drop (more.countP Cell.isLineEnd - after.countP Cell.isLineEnd) with
          | [] => (reading, [])
          | next :: following =>
              match afterDefinition? path next following with
              | none => (reading, next :: following)
              | some (indent, text) =>
                  readParagraph bound reading indent { next with text } following
      | none =>
          let (more, underlined, left) := paragraphLines path .inContainers line.ending rest
          (reading.add (paragraphBlock indent (first ++ more) underlined), left)

/-! ## Headings -/

/-- The heading with a text after its number signs.  Blanks before the text are dropped, and so
are number signs that close it; at its end only spaces are. -/
def signedHeading (text : List Char) : Block :=
  let text := Text.dropRight (· == ' ') (text.dropWhile isSpace)
  let front := Text.dropRight (· == '#') text
  if front.isEmpty then .heading { indent := 0, cells := [], tail := [] } false
  else if front.getLast? = some ' ' then
    let kept := Text.dropRight (· == ' ') front
    .heading { indent := 0, cells := Cell.ofChars kept, tail := [] } true
  else
    let kept := Text.dropRight isSpace text
    .heading { indent := 0, cells := Cell.ofChars kept, tail := text.drop kept.length } false

/-- Reads the block that starts at a place of a line. -/
def readLeaf (reading : Reading) (line : Line) (cursor : Cursor) (rest : List Line)
    : Reading × List Line :=
  let bound := rest.length + 1
  let path := reading.path
  let (indent, inner) := cursor.skipUpTo 4
  if 4 ≤ indent then
    let (raw, after) := Line.takeRaw inner.rest line.ending rest
    let (more, blank, left) := indentedCode path bound [] after
    ({ reading.add (.code (codeLine inner.spare raw ++ more)) with afterBlank := blank }, left)
  else
    match HtmlEnd.starting? inner.rest with
    | some finish =>
        let (raw, after) := Line.takeRaw inner.rest line.ending rest
        let (more, left) := htmlLines path finish bound raw after
        (reading.add (.html (codeLine (max cursor.spare indent) raw ++ more)), left)
    | none =>
        if isRule inner.rest then (reading.add .rule, rest)
        else
          match headingLevel? inner.rest with
          | some level => (reading.add (signedHeading (inner.rest.drop level)), rest)
          | none =>
              match Fence.open? { line with text := inner.rest } rest with
              | some fence =>
                  let (_, after) := Line.takeRaw inner.rest line.ending rest
                  let (text, left) := fencedCode path fence indent bound after
                  (reading.add (.code text), left)
              | none => readParagraph bound reading 0 { line with text := inner.rest } rest

/-- Reads the block that a line starts, and gives the lines left. -/
def readBlock (reading : Reading) (line : Line) (rest : List Line) : Reading × List Line :=
  let (count, cursor) := continueHolders (.start line.text) reading.path
  let reading := reading.closeMany (reading.holders.length - count)
  match openHolders (line.text.length + 1) reading cursor with
  | (reading, .nothing) => (reading, rest)
  | (reading, .goesOn cursor) =>
      if isBlankText cursor.rest then (reading.blankLine, rest)
      else readLeaf reading.beforeBlock line cursor rest

/-- Reads the blocks of lines.  The first argument bounds their number. -/
def readBlocks : Nat → Reading → List Line → Reading
  | 0, reading, _ => reading
  | _ + 1, reading, [] => reading
  | bound + 1, reading, line :: rest =>
      let (next, left) := readBlock reading line rest
      readBlocks bound next left

/-- The blocks and the definitions of a text. -/
def blocksOf (text : List Char) : List Block × Definitions :=
  let lines := Line.split text
  let reading := readBlocks (lines.length + 1) .empty lines
  let closed := reading.closeMany reading.holders.length
  (closed.finished.reverse, closed.definitions)

end MessageCard.Markdown
