import MessageCard.Inline.Event
import MessageCard.Text.Blank
import MessageCard.Text.Punctuation

/-!
Emphasis.  Runs of marks open and close formatting by what stands around them; a closing run
takes the nearest opening run that it fits, and what is left over is text.
-/

namespace MessageCard.Markdown

/-- A run of equal marks, what it may do, and blanks after it that are text if marks of it
are. -/
structure Delimiter where
  mark : Char
  length : Nat
  canOpen : Bool
  canClose : Bool
  tail : List Char := []
deriving DecidableEq, Repr

namespace Delimiter

/-- Whether a run may open formatting, by the characters around it. -/
def opens (mark : Char) (length : Nat) (before after : Char) : Bool :=
  !Text.isBlank after &&
    ((mark == '*' && !Text.isPunctuation after) || (mark == '~' && 1 < length) ||
      (mark == '~' && before == '~' && !Text.isPunctuation after) ||
      Text.isBlank before || Text.isPunctuation before)

/-- Whether a run may close formatting, by the characters around it. -/
def closes (mark : Char) (length : Nat) (before after : Char) : Bool :=
  !Text.isBlank before &&
    (((mark == '*' || (mark == '~' && 1 < length)) && !Text.isPunctuation before) ||
      (mark == '~' && before == '~') || Text.isBlank after || Text.isPunctuation after)

/-- The run of marks between two characters. -/
def of (mark : Char) (length : Nat) (before after : Char) : Delimiter where
  mark := mark
  length := length
  canOpen := opens mark length before after
  canClose := closes mark length before after

/-- Whether the run is more than text: it may open or close, and tildes come in ones or
twos. -/
def isActive (run : Delimiter) : Bool :=
  (run.canOpen || run.canClose) && (run.mark != '~' || run.length ≤ 2)

/-- Whether the run may both open and close. -/
def isBoth (run : Delimiter) : Bool :=
  run.canOpen && run.canClose

end Delimiter

/-- Inline markup with its structure. -/
inductive Inline
  | text (value : List Char)
  | code (value : List Char)
  | html (value : List Char)
  | softBreak
  | hardBreak (escaped : Bool)
  | formatted (kind : Formatting) (content : List Inline)
  | image (content : List Inline)

/-- Inline markup whose emphasis is not yet resolved. -/
inductive Piece
  | char (c : Char)
  | inline (value : Inline)
  | delimiter (run : Delimiter)

/-- An opening run: the marks of it that are left, and the markup after them, in reverse. -/
structure Opener where
  run : Delimiter
  left : Nat
  content : List Inline

/-- Markup while emphasis is resolved: what stands before all opening runs, in reverse; the
opening runs, innermost first; and how many of the outermost a run of tildes does not see. -/
structure Emphasis where
  base : List Inline
  openers : List Opener
  hidden : Nat

namespace Emphasis

/-- Nothing read. -/
def empty : Emphasis :=
  { base := [], openers := [], hidden := 0 }

/-- Adds markup. -/
def add (state : Emphasis) (value : Inline) : Emphasis :=
  match state.openers with
  | [] => { state with base := value :: state.base }
  | opener :: outer =>
      { state with openers := { opener with content := value :: opener.content } :: outer }

/-- Marks as text. -/
def marks (mark : Char) (count : Nat) : Inline :=
  .text (List.replicate count mark)

/-- An opening run that stays text, with the markup after it, in reverse. -/
def Opener.asText (opener : Opener) : List Inline :=
  opener.content ++ [marks opener.run.mark opener.left]

/-- The markup in opening runs that stay text, in reverse; the innermost run comes first. -/
def asText (openers : List Opener) : List Inline :=
  openers.flatMap Opener.asText

/-- Whether a closing run fits an opening run.  Tildes must be as many.  When one of two other
runs could do both, their lengths may not add up to a multiple of three, unless the closing
one is such a multiple. -/
def fits (closer : Delimiter) (opener : Opener) : Bool :=
  closer.mark == opener.run.mark &&
    (closer.mark != '~' || closer.length == opener.run.length) &&
    ((!closer.isBoth && !opener.run.isBoth) ||
      (closer.length + opener.run.length) % 3 != 0 || closer.length % 3 == 0)

/-- The innermost opening run that the closing run fits, and the runs inside it. -/
def findOpener (closer : Delimiter) : List Opener → Option (List Opener × Opener)
  | [] => none
  | opener :: outer =>
      if fits closer opener then some ([], opener)
      else (findOpener closer outer).map fun (inner, found) => (opener :: inner, found)

/-- Puts formatting around markup: by twos from the inside out, then by one. -/
def wrap (mark : Char) : Nat → List Inline → List Inline
  | 0, content => content
  | 1, content => [.formatted (if mark = '~' then .strikethrough else .emphasis) content]
  | count + 2, content =>
      wrap mark count [.formatted (if mark = '~' then .strikethrough else .strong) content]

/-- Closes formatting with what is left of a closing run.  The first argument bounds the
steps; also gives how many marks are left in the end. -/
def closeWith (closer : Delimiter) : Nat → Nat → Emphasis → Nat × Emphasis
  | 0, left, state => (left, state)
  | bound + 1, left, state =>
      let visible :=
        if closer.mark = '~' then state.openers.take (state.openers.length - state.hidden)
        else state.openers
      match findOpener closer visible with
      | none =>
          (left,
            { state with
              hidden := if closer.mark = '~' then state.openers.length else state.hidden })
      | some (inner, opener) =>
          let outer := state.openers.drop (inner.length + 1)
          let count := min left opener.left
          let content := wrap closer.mark count (asText inner ++ opener.content).reverse
          let kept : Emphasis :=
            { state with openers := outer, hidden := min state.hidden outer.length }
          let next :=
            if count < opener.left then
              { kept with
                openers :=
                  { opener with left := opener.left - count, content := content.reverse } ::
                    outer }
            else content.foldl add kept
          if left = count then (0, next) else closeWith closer bound (left - count) next

/-- Reads a run: it closes what it can; what is left opens, or is text. -/
def addRun (state : Emphasis) (run : Delimiter) : Emphasis :=
  let (left, state) :=
    if run.canClose then closeWith run (run.length + 1) run.length state else (run.length, state)
  if left = 0 then state
  else if run.canOpen then
    { state with openers := { run, left, content := [] } :: state.openers }
  else state.add (.text (List.replicate left run.mark ++ run.tail))

/-- Reads a piece. -/
def step (state : Emphasis) : Piece → Emphasis
  | .char c => state.add (.text [c])
  | .inline value => state.add value
  | .delimiter run => state.addRun run

/-- The markup with all opening runs that are left as text. -/
def finish (state : Emphasis) : List Inline :=
  (asText state.openers ++ state.base).reverse

end Emphasis

/-- Whether a piece is a run of marks. -/
def Piece.isDelimiter : Piece → Bool
  | .delimiter _ => true
  | _ => false

/-- The markup of pieces with their emphasis resolved. -/
def resolved (pieces : List Piece) : List Inline :=
  (pieces.foldl Emphasis.step .empty).finish

end MessageCard.Markdown
