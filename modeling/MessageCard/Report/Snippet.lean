import MessageCard.Diagnostic
import MessageCard.Report.Source
import MessageCard.Text.Blank
import MessageCard.Text.Search

/-!
Reports as they are printed: a headline, the marked part of the source with line numbers at its
side, and notes.  A mark on one line is underlined; a mark over several lines is bracketed, and
lines in its middle are left out.
-/

namespace MessageCard

/-- The severity, as a headline starts. -/
def Severity.name : Severity → String
  | error => "error"
  | warning => "warning"

namespace Report

/-! ## The margin -/

/-- The margin of a line: a number, pushed to the right, and a blank. -/
def margin (width : Nat) (number : String) : String :=
  String.ofList (List.replicate (width - number.length) ' ') ++ number ++ " "

/-- A line of the snippet beside its margin. -/
def beside (width : Nat) (number : String) (text : String) : String :=
  margin width number ++ text

/-- A quoted source line. -/
def quotedText (line : SourceLine) : String :=
  String.ofList ((Glyph.line 0 0 line.shown).flatMap Glyph.quoted)

/-! ## Marks on one line -/

/-- Blanks and carets under a line, for a mark from `start` on and before `stop`.  A mark may
stand right behind the line. -/
def carets (start stop : Nat) (text : List Char) : String :=
  let behind : Glyph := { char := ' ', offset := utf8Length text, size := 1, width := 1 }
  String.ofList ((Glyph.line 0 0 text ++ [behind]).flatMap fun glyph =>
    if glyph.meets start stop then List.replicate glyph.width '^'
    else if glyph.offset < stop then List.replicate glyph.width ' '
    else [])

/-- The lines of a snippet whose mark lies on one line; the mark has at least one caret. -/
def singleLines (width : Nat) (line : SourceLine) (span : Span) : List String :=
  let start := span.start - line.start
  let stop := max (span.stop - line.start) (start + 1)
  [beside width (toString line.number) ("│ " ++ quotedText line),
    beside width "" ("│ " ++ carets start stop line.shown)]

/-! ## Marks over several lines -/

/-- The line strokes under the characters that start before an offset. -/
def strokes (bound : Nat) (text : List Char) : String :=
  String.ofList ((Glyph.line 0 0 text).flatMap fun glyph =>
    if glyph.offset < bound then List.replicate glyph.width '─' else [])

/-- The lines for the first line of a mark: the bracket opens before the text, when nothing but
white space stands before the mark, else under it. -/
def topLines (width : Nat) (line : SourceLine) (span : Span) : List String :=
  let start := span.start - line.start
  let indent := utf8Length (line.shown.takeWhile Text.isBlank)
  if start ≤ indent then
    [beside width (toString line.number) ("│ ╭ " ++ quotedText line)]
  else
    [beside width (toString line.number) ("│   " ++ quotedText line),
      beside width "" ("│ ╭─" ++ strokes start line.shown ++ "^")]

/-- The line for a line inside a mark. -/
def insideLine (width : Nat) (line : SourceLine) : String :=
  beside width (toString line.number) ("│ │ " ++ quotedText line)

/-- The lines for the last line of a mark. -/
def bottomLines (width : Nat) (line : SourceLine) (span : Span) : List String :=
  [insideLine width line,
    beside width "" ("│ ╰─" ++ strokes (span.stop - line.start - 1) line.shown ++ "^")]

/-- The line in place of lines that are left out. -/
def breakLine (width : Nat) : String :=
  beside width "" "· │"

/-- The lines for the middle of a mark: the first three and the last; between them a line that
would be alone is kept, and more are left out. -/
def middleLines (width : Nat) (lines : List SourceLine) : List String :=
  if lines.length ≤ 5 then lines.map (insideLine width)
  else
    (lines.take 3).map (insideLine width) ++ [breakLine width] ++
      (lines.drop (lines.length - 1)).map (insideLine width)

/-! ## Snippets -/

/-- The blanks that the bracket of a mark takes. -/
def bracketSpace (isSingle : Bool) : String :=
  if isSingle then "" else "  "

/-- The lines of the snippet of a mark, and the width of its margin. -/
def snippet (name source : String) (span : Span) (hasNotes : Bool) : Nat × List String :=
  let lines := SourceLine.all source
  match SourceLine.find? lines span.start, SourceLine.find? lines span.stop with
  | some first, some last =>
      let width := (toString last.number).length
      let isSingle := first.number == last.number
      let border := beside width "" ("│" ++ bracketSpace isSingle)
      let middle := lines.filter fun line =>
        first.number < line.number && line.number < last.number
      (width,
        beside width "" ("┌─ " ++ name ++ ":" ++ toString first.number ++ ":" ++
          toString (first.column span.start)) ::
        border ::
        (if isSingle then singleLines width first span
          else topLines width first span ++ middleLines width middle ++
            bottomLines width last span) ++
        (if hasNotes then [border] else []))
  | _, _ => (0, [])

/-- The lines of a note. -/
def noteLines (width : Nat) (note : String) : List String :=
  match Text.lines note.toList with
  | [] => []
  | first :: more =>
      beside width "" ("= " ++ String.ofList first) ::
        more.map fun line => beside width "" ("  " ++ String.ofList line)

/-- The text of a report about a source of some name. -/
def render (report : Report) (name source : String) : String :=
  let (width, marked) :=
    match report.labels with
    | [] => (0, [])
    | (_, span) :: _ => snippet name source span (!report.notes.isEmpty)
  let lines := (report.severity.name ++ ": " ++ report.message) :: marked ++
    report.notes.flatMap (noteLines width) ++ [""]
  String.join (lines.map (· ++ "\n"))

end Report

end MessageCard
