import MessageCard.Compilation.Element

/-!
Compiling whole cards: the header first, then the body.  A header that is dropped leaves no
node; a faulty body counts as empty.
-/

namespace MessageCard

/-- The outcome of a compilation that was not ended: the tree, and what was reported. -/
structure Compilation where
  tree : Node
  warnings : List Diagnostic

/-- The path of the header. -/
def Path.header : Path :=
  Path.top "header"

/-- The path of the body. -/
def Path.body : Path :=
  Path.top "elements"

/-- The node of a header. -/
def Node.header (template : Template) (title : String) : Node :=
  (Node.new .header [Style.header, template.name]).withText title
    |>.withAttrs { template := some template }

/-- Compiles the header of a card. -/
def Header.compile (setting : Setting) : Header → Trace Node
  | .faulty fault => setting.fault fault Path.header
  | .titled template title => .done (.header template (setting.display title))

/-- Compiles the header of a card, if it has one; a header that is dropped leaves no node. -/
def Header.compileOptional (setting : Setting) : Option Header → Trace (Option Node)
  | none => .done none
  | some header => (header.compile setting).optional

/-- Treats a fault of the body itself. -/
def Body.check (setting : Setting) : Body → Trace (Option Unit)
  | .faulty fault => (setting.fault fault Path.body : Trace Unit).optional
  | .elements _ => .done (some ())

/-- Compiles the body of a card. -/
def Body.compile (setting : Setting) (body : Body) : Trace (List Node) :=
  (body.check setting).andThen fun _ =>
    atLevel setting Path.body 1 (Element.compileAll setting Path.body 1 0 body.items)

/-- The tree of a card. -/
def Node.card (header : Option Node) (elements : List Node) : Node :=
  (Node.new .root [Style.card]).withChildren
    (header.toList ++
      [(Node.new .elementsContainer [Style.elements]).withChildren elements])

/-- Compiles a card. -/
def Card.compile (setting : Setting) (card : Card) : Trace Node :=
  (Header.compileOptional setting card.header).andThen fun header =>
    (card.body.compile setting).map (Node.card header)

/-- The outcome for a caller: what was compiled, or the fatal report.  The tree itself is
never dropped. -/
def Trace.compilation (trace : Trace Node) : Except Diagnostic Compilation :=
  match trace.outcome with
  | .done tree => .ok { tree, warnings := trace.recorded }
  | .dropped => .ok { tree := Node.card none [], warnings := trace.recorded }
  | .aborted fatal => .error fatal

/-- Compiles a document. -/
def Document.compile (document : Document) (options : Options)
    : Except Diagnostic Compilation :=
  ((Card.ofDocument document).compile { options, sourceId := document.sourceId }).compilation

/-- Compiles a source text. -/
def compile (source : String) (options : Options) (sourceId : Nat)
    : Except Diagnostic Compilation :=
  match Document.read source sourceId with
  | .ok document => document.compile options
  | .error error => .error error.diagnostic

end MessageCard
