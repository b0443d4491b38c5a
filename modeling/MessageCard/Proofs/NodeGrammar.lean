import MessageCard.Compilation.Card
import MessageCard.Proofs.DoubleValue

/-! The grammar of output trees.  Each kind of node has one shape: its classes, what it carries, the
attributes that it may set, and the kinds of its children.  A tree is well formed when every node
that lies in it has the shape of its kind and none lies too deep.
-/

namespace MessageCard

/-- Whether nodes of the kind are elements of a body or of a column. -/
def Kind.isElement : Kind → Bool
  | .div => true
  | .hr => true
  | .img => true
  | .note => true
  | .columnSet => true
  | _ => false

/-- Whether nodes of the kind are children of a note. -/
def Kind.isEmbedded : Kind → Bool
  | .embeddedText => true
  | .embeddedImg => true
  | _ => false

theorem Kind.ofName?_name (kind : Kind) : ofName? kind.name = some kind := by
  cases kind <;> rfl

namespace Node

/-- The node lies in the tree, so many steps below its root. -/
inductive Lies (tree : Node) : Nat → Node → Prop
  | root : Lies tree 0 tree
  | child {depth : Nat} {parent node : Node} (above : Lies tree depth parent)
    (listed : node ∈ parent.children)
    : Lies tree (depth + 1) node

/-- The node has the shape of its kind. -/
inductive Shaped : Node → Prop
  | root {header : Option Node} {container : Node}
    (headed : ∀ node, header = some node → node.kind = .header)
    (contained : container.kind = .elementsContainer)
    : Shaped
        { kind := .root
          classes := [Style.card]
          content := .children (header.toList ++ [container])
          attrs := {} }
  | header {template : Template} {title : String}
    : Shaped
        { kind := .header
          classes := [Style.header, template.name]
          content := .text title
          attrs := { template := some template } }
  | elementsContainer {elements : List Node}
    (each : ∀ node ∈ elements, node.kind.isElement = true)
    : Shaped
        { kind := .elementsContainer
          classes := [Style.elements]
          content := .children elements
          attrs := {} }
  | div {content : String} (filled : content ≠ "")
    : Shaped
        { kind := .div
          classes := [Style.element, Kind.div.name]
          content := .text content
          attrs := {} }
  | hr
    : Shaped
        { kind := .hr
          classes := [Style.element, Kind.hr.name]
          content := .empty
          attrs := {} }
  | img {key alt : String} {compact : Bool} {width : Option Double} (named : key ≠ "")
    (bounded
      : ∀ number,
          width = some number
          → number.isFinite = true ∧ 278 ≤ number.value ∧ number.value ≤ 580)
    : Shaped
        { kind := .img
          classes := [Style.element, Kind.img.name] ++ if compact then [Style.compact] else []
          content := .locator (imageEndpoint ++ key)
          attrs := { compact, customWidth := width, alt := some alt } }
  | note {children : List Node} (filled : children ≠ [])
    (each : ∀ node ∈ children, node.kind.isEmbedded = true)
    : Shaped
        { kind := .note
          classes := [Style.element, Kind.note.name]
          content := .children children
          attrs := {} }
  | columnSet {columns : List Node} (filled : columns ≠ [])
    (each : ∀ node ∈ columns, node.kind = .column)
    : Shaped
        { kind := .columnSet
          classes := [Style.element, Kind.columnSet.name]
          content := .children columns
          attrs := {} }
  | column {elements : List Node} (each : ∀ node ∈ elements, node.kind.isElement = true)
    : Shaped
        { kind := .column
          classes := [Style.column]
          content := .children elements
          attrs := {} }
  | embeddedText {content : String} {inlines : List Run} (filled : content ≠ "")
    (parsed : inlines = [] ∨ inlines = Run.ofMarkdown content)
    : Shaped
        { kind := .embeddedText
          classes := [Style.embedded, Style.embeddedText]
          content := .text content
          attrs := { inlines } }
  | embeddedImg {key alt : String} {preview : Bool} (named : key ≠ "")
    : Shaped
        { kind := .embeddedImg
          classes := [Style.embedded, Style.embeddedImg]
          content := .locator (imageEndpoint ++ key)
          attrs := { size := some 16, preview := some preview, alt := some alt } }

/-- The tree is one of a card whose elements are nested no deeper than the limit: each of the nested
levels takes two steps, one to the column and one to its element.
-/
structure WellFormed (maxDepth : Nat) (tree : Node) : Prop where
  root : tree.kind = .root
  shaped : ∀ depth node, tree.Lies depth node → node.Shaped
  compact
    : ∀ depth node,
        tree.Lies depth node
        → node.kind = .img
        → (node.hasClass Style.compact = true ↔ node.attrs.compact = true)
  bounded : ∀ depth node, tree.Lies depth node → depth ≤ 2 * maxDepth + 1

-----------------------------------------------------------------------------------------
-- Trees from their children
-----------------------------------------------------------------------------------------

/-- What lies in a tree is its root or lies in a child of the root, one step less deep. -/
theorem Lies.root_or_below {tree node : Node} {depth : Nat} (lies : tree.Lies depth node)
    : (depth = 0 ∧ node = tree)
      ∨ ∃ child ∈ tree.children, ∃ below, depth = below + 1 ∧ child.Lies below node := by
  induction lies with
  | root => exact Or.inl ⟨rfl, rfl⟩
  | @child depth parent node above listed ih =>
      rcases ih with ⟨rfl, rfl⟩ | ⟨first, member, below, rfl, inside⟩
      · exact Or.inr ⟨node, listed, 0, rfl, .root⟩
      · exact Or.inr ⟨first, member, below + 1, rfl, inside.child listed⟩

/-- What lies in a child lies in the tree, one step deeper. -/
theorem Lies.of_child {tree child node : Node} {depth : Nat} (listed : child ∈ tree.children)
    (lies : child.Lies depth node)
    : tree.Lies (depth + 1) node := by
  induction lies with
  | root => exact .child .root listed
  | child _ member ih => exact .child ih member

/-- The node may stand at a depth: all that lies in it has the shape of its kind and is within the
limit, counted from there.
-/
def Fits (limit depth : Nat) (node : Node) : Prop :=
  ∀ below other, node.Lies below other → other.Shaped ∧ depth + below ≤ limit

/-- A node fits when it has the shape of its kind and its children fit one step deeper. -/
theorem Fits.of_children {limit depth : Nat} {node : Node} (shaped : node.Shaped)
    (within : depth ≤ limit) (each : ∀ child ∈ node.children, child.Fits limit (depth + 1))
    : node.Fits limit depth := by
  intro below other lies
  rcases lies.root_or_below with ⟨rfl, rfl⟩ | ⟨child, member, deeper, rfl, inside⟩
  · exact ⟨shaped, within⟩
  · obtain ⟨otherShaped, bound⟩ := each child member deeper other inside
    exact ⟨otherShaped, by omega⟩

theorem Fits.of_leaf {limit depth : Nat} {node : Node} (shaped : node.Shaped)
    (within : depth ≤ limit) (leaf : node.children = [])
    : node.Fits limit depth :=
  .of_children shaped within (by simp [leaf])

/-- An image has the class of compact ones exactly when it is marked as compact. -/
theorem Shaped.hasClass_compact {node : Node} (shaped : node.Shaped) (image : node.kind = .img)
    : node.hasClass Style.compact = true ↔ node.attrs.compact = true := by
  cases shaped with
  | @img key alt compact width named bounded =>
      cases compact <;> simp [hasClass, Style.element, Kind.name, Style.compact]
  | _ => cases image

end Node

end MessageCard
