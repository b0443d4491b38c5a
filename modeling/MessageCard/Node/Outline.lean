import MessageCard.Node.Basic
import MessageCard.Text.Quoted

/-!
The outline of a tree: one line for each node, before the lines of its children, indented by
two blanks for each level.
-/

namespace MessageCard

/-- The attributes as a line shows them; inline runs are left out. -/
def Attrs.outline (attrs : Attrs) : String :=
  String.join
    ((attrs.template.map fun template => " template=" ++ template.name).toList ++
      (if attrs.compact then [" compact"] else []) ++
      (attrs.customWidth.map fun width => " custom_width=" ++ width.plain).toList ++
      (attrs.size.map fun size => " size=" ++ toString size).toList ++
      (attrs.preview.map fun preview =>
        " preview=" ++ if preview then "true" else "false").toList ++
      (attrs.alt.map fun alt => " alt=" ++ Text.quoted alt).toList)

/-- The style classes as a line shows them. -/
def classesOutline (classes : List String) : String :=
  if classes.isEmpty then "" else " [" ++ String.intercalate " " classes ++ "]"

/-- The blanks before a line. -/
def indentation (level : Nat) : String :=
  String.ofList (List.replicate (2 * level) ' ')

/-- Content other than children, as a line shows it. -/
def Content.outline {α : Type} : Content α → String
  | .empty => ""
  | .text value => " " ++ Text.quoted value
  | .locator value => " <" ++ value ++ ">"
  | .children _ => ""

namespace Node

/-- The line of a node, without its indentation. -/
def headline (node : Node) : String :=
  node.kind.name ++ classesOutline node.classes ++ node.attrs.outline ++ node.content.outline

mutual

/-- The lines of a node at a level. -/
def lines (level : Nat) : Node → List String
  | ⟨kind, classes, content, attrs⟩ =>
      (indentation level ++ headline ⟨kind, classes, content, attrs⟩) ::
        contentLines (level + 1) content

/-- The lines of the children in some content. -/
def contentLines (level : Nat) : Content Node → List String
  | .empty => []
  | .text _ => []
  | .locator _ => []
  | .children nodes => linesOfAll level nodes

/-- The lines of nodes at a level. -/
def linesOfAll (level : Nat) : List Node → List String
  | [] => []
  | node :: rest => lines level node ++ linesOfAll level rest

end

/-- The outline of a tree, each line ended by a newline. -/
def outline (node : Node) : String :=
  String.join ((lines 0 node).map (· ++ "\n"))

end Node

end MessageCard
