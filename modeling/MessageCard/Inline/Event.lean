import MessageCard.Inline.Run

/-!
Markup as a stream of events, and the runs that it describes.  Formatting becomes a run of
its own; other containers are transparent.  Text joins the text before it, and a paragraph
starts a new line.
-/

namespace MessageCard

/-- Inline formatting that encloses other runs. -/
inductive Formatting
  | strong
  | emphasis
  | strikethrough
  | link (href : String)
deriving DecidableEq, Repr

/-- What encloses a stretch of markup. -/
inductive Container
  | formatting (kind : Formatting)
  | paragraph
  | other
deriving DecidableEq, Repr

/-- What ends a stretch of markup; the end of a link does not repeat its target. -/
inductive Closing
  | strong
  | emphasis
  | strikethrough
  | link
  | other
deriving DecidableEq, Repr

/-- The end that belongs to formatting. -/
def Formatting.closing : Formatting → Closing
  | strong => .strong
  | emphasis => .emphasis
  | strikethrough => .strikethrough
  | link _ => .link

/-- The run of formatting around its content. -/
def Formatting.run (kind : Formatting) (content : List Run) : Run :=
  match kind with
  | strong => .strong content
  | emphasis => .emphasis content
  | strikethrough => .strikethrough content
  | link href => .link href content

/-- The end that belongs to a container. -/
def Container.closing : Container → Closing
  | formatting kind => kind.closing
  | paragraph => .other
  | other => .other

/-- An event of a stream of markup; both sorts of raw HTML count as text. -/
inductive Event
  | start (container : Container)
  | finish (closing : Closing)
  | text (value : String)
  | html (value : String)
  | code (value : String)
  | softBreak
  | hardBreak
  | rule
deriving DecidableEq, Repr

namespace Run

/-- Adds text to runs held in reverse: it joins text that comes right before it. -/
def addText (value : String) : List Run → List Run
  | text before :: runs => text (before ++ value) :: runs
  | runs => text value :: runs

/-- Starts a paragraph after runs held in reverse: on a new line, unless they are empty. -/
def addParagraph : List Run → List Run
  | [] => []
  | runs => hardBreak :: runs

/-- The runs read so far: those of the innermost open formatting, and for each open
formatting, innermost first, the runs before it.  All are held in reverse. -/
structure Reading where
  current : List Run
  outer : List (Formatting × List Run)

namespace Reading

/-- Nothing read. -/
def empty : Reading :=
  { current := [], outer := [] }

/-- Closes the innermost formatting. -/
def close (reading : Reading) : Reading :=
  match reading.outer with
  | [] => reading
  | (kind, before) :: outer => { current := kind.run reading.current.reverse :: before, outer }

/-- Reads an event.  An end that does not belong to the innermost formatting is ignored. -/
def step (reading : Reading) : Event → Reading
  | .start (.formatting kind) =>
      { current := [], outer := (kind, reading.current) :: reading.outer }
  | .start .paragraph => { reading with current := addParagraph reading.current }
  | .start .other => reading
  | .finish closing =>
      if (reading.outer.head?.map fun frame => frame.1.closing) = some closing then
        reading.close
      else reading
  | .text value => { reading with current := addText value reading.current }
  | .html value => { reading with current := addText value reading.current }
  | .code value => { reading with current := Run.code value :: reading.current }
  | .softBreak => { reading with current := Run.softBreak :: reading.current }
  | .hardBreak => { reading with current := Run.hardBreak :: reading.current }
  | .rule => reading

/-- Closes formatting that is still open, from the innermost outwards. -/
def finish (current : List Run) : List (Formatting × List Run) → List Run
  | [] => current.reverse
  | (kind, before) :: outer => finish (kind.run current.reverse :: before) outer

end Reading

/-- The runs that a stream of events describes. -/
def ofEvents (events : List Event) : List Run :=
  let reading := events.foldl Reading.step .empty
  Reading.finish reading.current reading.outer

end Run

end MessageCard
