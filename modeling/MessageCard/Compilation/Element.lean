import MessageCard.Card.Section
import MessageCard.Compilation.Image
import MessageCard.Compilation.Trace
import MessageCard.Markdown.Runs
import MessageCard.Node.Basic
import MessageCard.Validator

/-!
Compiling the elements of a card.  A fault is treated as the level of validation says: it
drops the element around it, or it is fatal.  An unknown tag and a list of elements nested
too deep are fatal at every level.
-/

namespace MessageCard

/-- What stays the same during a compilation. -/
structure Setting where
  options : Options
  sourceId : Nat
deriving DecidableEq, Repr

namespace Setting

variable {α : Type}

/-- Treats a fault as the level says. -/
def fault (setting : Setting) (fault : Fault) (path : Path) : Trace α :=
  match setting.options.level.verdict fault.message path setting.sourceId with
  | .ok reports => .dropped reports
  | .error fatal => .aborted fatal

/-- Ends the compilation at a place. -/
def abort (setting : Setting) (cause : Cause) (path : Path) : Trace α :=
  .aborted (.fatal cause path setting.sourceId)

/-- Drops an element whose tag is known but yields no output. -/
def defer (setting : Setting) (tag : ElementTag) (path : Path) : Trace α :=
  .dropped [.warning (.notImplemented tag.name) path setting.sourceId]

/-- The display text for the locale of the options. -/
def display (setting : Setting) (text : LocalizedText) : String :=
  text.resolve setting.options.locale

end Setting

/-- The node of a text in a note. -/
def Node.embeddedText (content : String) (inlines : List Run) : Node :=
  (Node.new .embeddedText [Style.embedded, Style.embeddedText]).withText content
    |>.withAttrs { inlines }

/-- The node of an image in a note. -/
def Node.embeddedImage (setting : Setting) (image : Image) (preview : Bool) : Node :=
  (Node.new .embeddedImg [Style.embedded, Style.embeddedImg]).withLocator
      (imageLocator image.key)
    |>.withAttrs
      { size := some ImageSize.embedded,
        preview := some preview,
        alt := some (setting.display image.alt) }

/-- The node of an image. -/
def Node.image (setting : Setting) (image : Image) (compact : Bool) (width : Option Double)
    : Node :=
  let node :=
    (Node.element .img).withLocator (imageLocator image.key)
      |>.withAttrs
        { compact,
          customWidth := width.map ImageSize.clampWidth,
          alt := some (setting.display image.alt) }
  if compact then node.withClass Style.compact else node

/-- Compiles a child of a note. -/
def Child.compile (setting : Setting) (path : Path) : Child → Trace Node
  | .faulty fault => setting.fault fault path
  | .unknown tag => setting.abort (.unknownTag .noteChild tag ChildTag.allowed) path
  | .plain content => .done (.embeddedText content [])
  | .markdown content => .done (.embeddedText content (Run.ofMarkdown content))
  | .image shown preview => .done (.embeddedImage setting shown preview)

/-- Compiles the children of a note from an index on; one that is dropped drops the note. -/
def Child.compileAll (setting : Setting) (path : Path) (index : Nat)
    : List Child → Trace (List Node)
  | [] => .done []
  | child :: rest =>
      (child.compile setting (path.item index)).andThen fun node =>
        (compileAll setting path (index + 1) rest).map (node :: ·)

/-- Compiles a list of elements on a level of nesting, unless the level is too deep. -/
def atLevel {α : Type} (setting : Setting) (path : Path) (level : Nat) (trace : Trace α)
    : Trace α :=
  if setting.options.maxDepth < level then
    setting.abort (.depthExceeded setting.options.maxDepth) path
  else trace

mutual

/-- Compiles an element on a level of nesting. -/
def Element.compile (setting : Setting) (path : Path) (level : Nat) : Element → Trace Node
  | .faulty fault => setting.fault fault path
  | .unknown tag => setting.abort (.unknownTag .element tag ElementTag.allowed) path
  | .deferred tag => setting.defer tag path
  | .div content => .done ((Node.element .div).withText content)
  | .hr => .done (Node.element .hr)
  | .img image compact width => .done (.image setting image compact width)
  | .note children =>
      (Child.compileAll setting (path.field "elements") 0 children).map
        (Node.element .note).withChildren
  | .columnSet columns =>
      (Column.compileAll setting (path.field "columns") level 0 columns).map
        (Node.element .columnSet).withChildren

/-- Compiles elements from an index on; those that are dropped leave no node. -/
def Element.compileAll (setting : Setting) (path : Path) (level index : Nat)
    : List Element → Trace (List Node)
  | [] => .done []
  | element :: rest =>
      (element.compile setting (path.item index) level).optional.andThen fun node =>
        (Element.compileAll setting path level (index + 1) rest).map (node.toList ++ ·)

/-- Compiles the columns of a set from an index on; one that is dropped drops the set. -/
def Column.compileAll (setting : Setting) (path : Path) (level index : Nat)
    : List Column → Trace (List Node)
  | [] => .done []
  | column :: rest =>
      (column.compile setting (path.item index) level).andThen fun node =>
        (Column.compileAll setting path level (index + 1) rest).map (node :: ·)

/-- Compiles a column of a set on a level of nesting; its elements are one level deeper. -/
def Column.compile (setting : Setting) (path : Path) (level : Nat) : Column → Trace Node
  | .faulty fault => setting.fault fault path
  | .elements [] => .done ((Node.new .column [Style.column]).withChildren [])
  | .elements (first :: rest) =>
      (atLevel setting (path.field "elements") (level + 1)
        (Element.compileAll setting (path.field "elements") (level + 1) 0
          (first :: rest))).map
        (Node.new .column [Style.column]).withChildren

end

end MessageCard
