import MessageCard.Card.Tag
import MessageCard.Inline.Run

/-!
The tree that a card compiles to.  A node has a kind, style classes, content and attributes.
-/

namespace MessageCard

/-- What a node stands for. -/
inductive Kind
  | root
  | header
  | elementsContainer
  | div
  | hr
  | img
  | note
  | columnSet
  | column
  | embeddedText
  | embeddedImg
deriving DecidableEq, Repr

namespace Kind

/-- Every kind. -/
def all : List Kind :=
  [root, header, elementsContainer, div, hr, img, note, columnSet, column, embeddedText,
    embeddedImg]

/-- The kind as output spells it. -/
def name : Kind → String
  | root => "root"
  | header => "header"
  | elementsContainer => "elements-container"
  | div => "div"
  | hr => "hr"
  | img => "img"
  | note => "note"
  | columnSet => "column_set"
  | column => "column"
  | embeddedText => "embedded-text"
  | embeddedImg => "embedded-img"

/-- The kind that output spells so. -/
def ofName? (text : String) : Option Kind :=
  byName? all name text

end Kind

/-- Hints on how a node is shown. -/
structure Attrs where
  template : Option Template := none
  compact : Bool := false
  customWidth : Option Double := none
  size : Option Nat := none
  preview : Option Bool := none
  alt : Option String := none
  inlines : List Run := []

/-- Attributes that say nothing. -/
def Attrs.none : Attrs :=
  {}

/-- What a node carries. -/
inductive Content (α : Type)
  | empty
  | text (value : String)
  | locator (value : String)
  | children (nodes : List α)

/-- A node of the tree of a card. -/
structure Node where
  kind : Kind
  classes : List String
  content : Content Node
  attrs : Attrs

/-! ## Style classes -/

namespace Style

/-- The class of the root. -/
def card : String := "lark-card"

/-- The class of the header. -/
def header : String := "lark-card-header"

/-- The class of the container of the body. -/
def elements : String := "lark-card-elements"

/-- The class of an element of the body. -/
def element : String := "lark-card-element"

/-- The class of a column. -/
def column : String := "lark-card-column"

/-- The class of a child of a note. -/
def embedded : String := "lark-card-embedded"

/-- The second class of a text in a note. -/
def embeddedText : String := "text"

/-- The second class of an image in a note. -/
def embeddedImg : String := "img"

/-- The class of a compact image. -/
def compact : String := "compact"

end Style

namespace Node

/-- An empty node. -/
def new (kind : Kind) (classes : List String) : Node :=
  { kind, classes, content := .empty, attrs := .none }

/-- An empty element of the body, classed by its kind. -/
def element (kind : Kind) : Node :=
  new kind [Style.element, kind.name]

/-- The node with a text for its content. -/
def withText (node : Node) (text : String) : Node :=
  { node with content := .text text }

/-- The node with the locator of a resource for its content. -/
def withLocator (node : Node) (locator : String) : Node :=
  { node with content := .locator locator }

/-- The node with children for its content. -/
def withChildren (node : Node) (children : List Node) : Node :=
  { node with content := .children children }

/-- The node with other attributes. -/
def withAttrs (node : Node) (attrs : Attrs) : Node :=
  { node with attrs }

/-- The node with one more class. -/
def withClass (node : Node) (name : String) : Node :=
  { node with classes := node.classes ++ [name] }

/-- The children of the node. -/
def children (node : Node) : List Node :=
  match node.content with
  | .children nodes => nodes
  | _ => []

/-- The text of the node. -/
def text (node : Node) : Option String :=
  match node.content with
  | .text value => some value
  | _ => none

/-- The locator of the node. -/
def locator (node : Node) : Option String :=
  match node.content with
  | .locator value => some value
  | _ => none

/-- The first child of a kind. -/
def child (node : Node) (kind : Kind) : Option Node :=
  node.children.find? (·.kind == kind)

/-- Whether the node has a class. -/
def hasClass (node : Node) (name : String) : Bool :=
  node.classes.contains name

end Node

end MessageCard
