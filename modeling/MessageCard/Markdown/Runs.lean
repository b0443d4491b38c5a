import MessageCard.Markdown.Inline

/-!
Markdown as a stream of events, and as inline runs.  The paragraphs of a tight list make no
paragraph events.
-/

namespace MessageCard.Markdown

mutual

/-- The events of inline markup. -/
def Inline.events : Inline → List Event
  | .text value => [.text (String.ofList value)]
  | .code value => [.code (String.ofList value)]
  | .html value => [.html (String.ofList value)]
  | .softBreak => [.softBreak]
  | .hardBreak _ => [.hardBreak]
  | .formatted kind content =>
      .start (.formatting kind) :: Inline.eventsOfAll content ++ [.finish kind.closing]
  | .image content => .start .other :: Inline.eventsOfAll content ++ [.finish .other]

/-- The events of a sequence of inline markup. -/
def Inline.eventsOfAll : List Inline → List Event
  | [] => []
  | value :: rest => Inline.events value ++ Inline.eventsOfAll rest

end

/-- The events in a container. -/
def enclosed (container : Container) (content : List Event) : List Event :=
  .start container :: content ++ [.finish container.closing]

/-- The events of text with inline markup, and what is left of the allowance for references. -/
def Source.events (definitions : Definitions) (allowance : Nat) (source : Source)
    : List Event × Nat :=
  (inlineOf definitions allowance source).map Inline.eventsOfAll id

/-- The empty text that is left where number signs close a heading.  A target or a tag before
them takes it up. -/
def closingText (source : Source) : List Event :=
  if source.cells.getLast?.any fun cell => cell.isChar ')' || cell.isChar '>' then []
  else [.text ""]

mutual

/-- The events of a block, given whether it stands in an item of a tight list; and what is left
of the allowance for references. -/
def Block.events (definitions : Definitions) (inTight : Bool) (allowance : Nat)
    : Block → List Event × Nat
  | .paragraph source =>
      (source.events definitions allowance).map (if inTight then id else enclosed .paragraph) id
  | .heading source closed =>
      (source.events definitions allowance).map
        (fun events => enclosed .other (events ++ if closed then closingText source else [])) id
  | .code text =>
      (enclosed .other (if text.isEmpty then [] else [.text (String.ofList text)]), allowance)
  | .html text => (enclosed .other [.html (String.ofList text)], allowance)
  | .rule => ([.rule], allowance)
  | .quote content =>
      (Block.eventsOfAll definitions false allowance content).map (enclosed .other) id
  | .item content =>
      (Block.eventsOfAll definitions inTight allowance content).map (enclosed .other) id
  | .list tight items =>
      (Block.eventsOfAll definitions tight allowance items).map (enclosed .other) id

/-- The events of a sequence of blocks, and what is left of the allowance for references. -/
def Block.eventsOfAll (definitions : Definitions) (inTight : Bool) (allowance : Nat)
    : List Block → List Event × Nat
  | [] => ([], allowance)
  | block :: rest =>
      let (first, left) := Block.events definitions inTight allowance block
      (Block.eventsOfAll definitions inTight left rest).map (first ++ ·) id

end

/-- The weight of definitions that the references in a text may use up: the size of the text,
and no less than a fixed amount.  It keeps many references to one long target from making much
of little text. -/
def referenceAllowance (content : String) : Nat :=
  max content.utf8ByteSize 100000

/-- The events of markdown text. -/
def eventsOf (content : String) : List Event :=
  let (blocks, definitions) := blocksOf content.toList
  (Block.eventsOfAll definitions false (referenceAllowance content) blocks).1

end MessageCard.Markdown

namespace MessageCard

/-- The inline runs of markdown text. -/
def Run.ofMarkdown (content : String) : List Run :=
  Run.ofEvents (Markdown.eventsOf content)

end MessageCard
