import MessageCard.Markdown.Line
import MessageCard.Markdown.Tag

/-!
What a line can start, once its containers and its indentation are taken off: a rule, a
heading, a fence, a marker of a list, or a block of HTML.
-/

namespace MessageCard.Markdown

/-- Whether the line is a rule: three or more of one mark, and blanks. -/
def isRule (text : List Char) : Bool :=
  match text with
  | [] => false
  | mark :: _ =>
      (mark == '*' || mark == '-' || mark == '_') &&
        text.all (fun c => c == mark || isIndent c) && 3 ≤ text.count mark

/-- The level of a heading that starts with number signs. -/
def headingLevel? (text : List Char) : Option Nat :=
  let level := (text.takeWhile (· == '#')).length
  if 1 ≤ level ∧ level ≤ 6 ∧ (text.drop level).head?.all isSpaceOrEnd then some level else none

/-- Whether the line underlines a heading. -/
def isUnderline (text : List Char) : Bool :=
  match text with
  | [] => false
  | mark :: _ => (mark == '=' || mark == '-') && isBlankText (text.dropWhile (· == mark))

/-- A fence around code: its mark and how often that is repeated. -/
structure Fence where
  mark : Char
  length : Nat
deriving DecidableEq, Repr

/-- The fence that the rest of a line opens.  After backticks there may be no other backtick up
to the next newline; a carriage return alone does not end the line of a fence. -/
def Fence.open? (line : Line) (following : List Line) : Option Fence :=
  match line.text with
  | [] => none
  | mark :: _ =>
      let length := (line.text.takeWhile (· == mark)).length
      if (mark = '\x60' ∨ mark = '~') ∧ 3 ≤ length ∧
          !(mark == '\x60' &&
            (Line.takeRaw (line.text.drop length) line.ending following).1.contains '\x60') then
        some { mark, length }
      else none

/-- Whether the line closes the fence. -/
def Fence.isClosedBy (fence : Fence) (text : List Char) : Bool :=
  fence.length ≤ (text.takeWhile (· == fence.mark)).length &&
    (text.dropWhile (· == fence.mark)).all (· == ' ')

/-- The marker of a list item: its last character, its number, and the columns that it
takes. -/
structure Marker where
  mark : Char
  number : Nat
  width : Nat
deriving DecidableEq, Repr

/-- The marker at the start of some text, without the blank that has to follow. -/
def Marker.read? (text : List Char) : Option Marker :=
  match text with
  | [] => none
  | c :: _ =>
      if c = '-' ∨ c = '+' ∨ c = '*' then some { mark := c, number := 0, width := 1 }
      else
        let digits := text.takeWhile Char.isDigit
        if 1 ≤ digits.length ∧ digits.length ≤ 9 then
          match text.drop digits.length with
          | mark :: _ =>
              if mark = '.' ∨ mark = ')' then
                some
                  { mark,
                    number := digits.foldl (fun n d => n * 10 + (d.toNat - '0'.toNat)) 0,
                    width := digits.length + 1 }
              else none
          | [] => none
        else none

/-- A marker that opens an item, the columns by which the content of the item is indented,
and the text of the item.  A line of blanks leaves the content one column after the marker, and
so does a deeper indentation, which belongs to the content. -/
def Cursor.itemMarker? (cursor : Cursor) (indent : Nat) : Option (Marker × Nat × Cursor) :=
  if isRule cursor.rest then none
  else
    (Marker.read? cursor.rest).bind fun marker =>
      let after := cursor.advance marker.width
      let (lacking, next) := after.skip 1
      if lacking ≠ 0 ∧ !next.isAtEnd then none
      else
        let column := indent + marker.width + 1
        if isBlankText next.rest then some (marker, column, next)
        else
          let (columns, deeper) := next.skipUpTo 4
          if columns < 4 then some (marker, column + columns, deeper)
          else some (marker, column, next)

/-- Whether the line starts a list item that may end a paragraph: one that has content and
starts a bullet list, or an ordered list at one.  Outside the containers of the paragraph any
item may. -/
def interruptsByItem (text : List Char) (inContainers : Bool) : Bool :=
  match Marker.read? text with
  | none => false
  | some marker =>
      let after := text.drop marker.width
      after.head?.all isIndent &&
        (!inContainers ||
          ((marker.number == 1 || !(marker.mark == '.' || marker.mark == ')')) &&
            !isBlankText after))

/-! ## Blocks of HTML -/

/-- The names of the tags that start a block of HTML up to a blank line. -/
def blockTags : List String :=
  ["address", "article", "aside", "base", "basefont", "blockquote", "body", "caption", "center",
    "col", "colgroup", "dd", "details", "dialog", "dir", "div", "dl", "dt", "fieldset",
    "figcaption", "figure", "footer", "form", "frame", "frameset", "h1", "h2", "h3", "h4", "h5",
    "h6", "head", "header", "hr", "html", "iframe", "legend", "li", "link", "main", "menu",
    "menuitem", "nav", "noframes", "ol", "optgroup", "option", "p", "param", "search", "section",
    "summary", "table", "tbody", "td", "tfoot", "th", "thead", "title", "tr", "track", "ul"]

/-- The names of the tags whose block of HTML ends with the end tag. -/
def verbatimTags : List String :=
  ["pre", "style", "script", "textarea"]

/-- Where a block of HTML ends: on the line that holds a text, or before a blank line. -/
inductive HtmlEnd
  | holding (text : List Char)
  | blankLine
deriving DecidableEq, Repr

/-- Whether a name ends before the rest: a blank, a bracket or the end of the line follows. -/
def endsName (rest : List Char) : Bool :=
  rest.head?.all fun c => isSpaceOrEnd c || c == '>'

/-- The end of a block that starts with one of the verbatim tags. -/
def verbatimEnd? (text : List Char) : Option HtmlEnd :=
  verbatimTags.findSome? fun name =>
    let start := text.take name.length
    if start.map Char.toLower = name.toList ∧ endsName (text.drop name.length) then
      some (.holding ("</".toList ++ name.toList ++ ['>']))
    else none

/-- The end of a block that starts with a comment, an instruction or a declaration. -/
def markedEnd? (text : List Char) : Option HtmlEnd :=
  if "!--".toList.isPrefixOf text then some (.holding "-->".toList)
  else if "?".toList.isPrefixOf text then some (.holding "?>".toList)
  else if "![CDATA[".toList.isPrefixOf text then some (.holding "]]>".toList)
  else
    match text with
    | '!' :: c :: _ => if c.isAlpha then some (.holding ['>']) else none
    | _ => none

/-- Whether one of the tags that start a block follows an opening bracket. -/
def isBlockTag (text : List Char) : Bool :=
  let text := if text.head? = some '/' then text.drop 1 else text
  let name := text.takeWhile Char.isAlphanum
  let rest := text.dropWhile Char.isAlphanum
  blockTags.contains (String.ofList (name.map Char.toLower)) &&
    (rest.head?.all (fun c => isIndent c || c == '>') || "/>".toList.isPrefixOf rest)

/-- The end of the block of HTML that may end a paragraph, if the line starts one. -/
def HtmlEnd.interrupting? (text : List Char) : Option HtmlEnd :=
  match text with
  | '<' :: rest =>
      ((verbatimEnd? rest).or (markedEnd? rest)).or
        (if isBlockTag rest then some .blankLine else none)
  | _ => none

/-- Whether the line holds one tag and nothing else. -/
def isLoneTag (text : List Char) : Bool :=
  match text with
  | '<' :: rest =>
      match RawTag.skip? (Cell.ofChars rest) with
      | some after => after.all (Cell.charIs isSpace)
      | none => false
  | _ => false

/-- The end of the block of HTML that the line starts. -/
def HtmlEnd.starting? (text : List Char) : Option HtmlEnd :=
  (interrupting? text).or (if isLoneTag text then some .blankLine else none)

/-- Whether the rest of a line ends a paragraph that it would else go on with. -/
def interrupts (line : Line) (following : List Line) (inContainers : Bool) : Bool :=
  let text := line.text
  text.isEmpty || isRule text || (headingLevel? text).isSome ||
    (Fence.open? line following).isSome || text.head? == some '>' ||
    interruptsByItem text inContainers || (HtmlEnd.interrupting? text).isSome

end MessageCard.Markdown
