import MessageCard.Node.Html

/-! The grammar of markup.  Every tree is rendered as tokens in which each tag has one of the forms
known and is closed where it should be; which tags stand there, and with which attributes, is decided
by the tree without its strings.
-/

namespace MessageCard

namespace Html

/-- Whether the tag stands alone, without one that closes it. -/
def Tag.isVoid : Tag → Bool
  | hr => true
  | img => true
  | br => true
  | div => false
  | style => false
  | span => false
  | strong => false
  | em => false
  | del => false
  | code => false
  | a => false

/-- The attributes that the tag may be written with, in order. -/
def Tag.forms : Tag → List (List Attribute)
  | div => [[.classes]]
  | hr => [[.classes]]
  | span => [[.classes]]
  | img => [[.classes, .src, .alt], [.classes, .src, .alt, .style]]
  | a => [[.href]]
  | style => [[]]
  | strong => [[]]
  | em => [[]]
  | del => [[]]
  | code => [[]]
  | br => [[]]

/-- The tokens are texts and tags of known forms, of which the void ones stand alone and the others
are closed in the order in which they were opened.
-/
inductive Markup : List Token → Prop
  | nil : Markup []
  | text (value : String) {rest : List Token} (more : Markup rest) : Markup (.text value :: rest)
  | stylesheet {rest : List Token} (more : Markup rest) : Markup (.stylesheet :: rest)
  | void {tag : Tag} {attributes : List (Attribute × String)} {rest : List Token}
    (alone : tag.isVoid = true) (form : attributes.map Prod.fst ∈ tag.forms)
    (more : Markup rest)
    : Markup (.start tag attributes :: rest)
  | element {tag : Tag} {attributes : List (Attribute × String)} {inside rest : List Token}
    (closed : tag.isVoid = false) (form : attributes.map Prod.fst ∈ tag.forms)
    (within : Markup inside) (more : Markup rest)
    : Markup (.start tag attributes :: (inside ++ .finish tag :: rest))

/-- Markup may be put after markup, by induction over the first. -/
theorem Markup.append {tokens others : List Token} (markup : Markup tokens) (after : Markup others)
    : Markup (tokens ++ others) := by
  induction markup with
  | nil => exact after
  | text value _ ih => exact .text value ih
  | stylesheet _ ih => exact .stylesheet ih
  | void alone form _ ih => exact .void alone form ih
  | element closed form within _ _ ih =>
      rw [List.cons_append, List.append_assoc, List.cons_append]
      exact .element closed form within ih

/-- Markup may be put between a tag and the one that closes it. -/
theorem Markup.wrap {tag : Tag} {attributes : List (Attribute × String)} {inside : List Token}
    (closed : tag.isVoid = false) (form : attributes.map Prod.fst ∈ tag.forms)
    (within : Markup inside)
    : Markup (.start tag attributes :: inside ++ [.finish tag]) :=
  .element closed form within .nil

mutual

theorem ofRun_markup (run : Run) : Markup (ofRun run) := by
  cases run with
  | text value => exact .text value .nil
  | code value => exact .wrap rfl (by decide) (.text value .nil)
  | strong content => exact .wrap rfl (by decide) (ofRuns_markup content)
  | emphasis content => exact .wrap rfl (by decide) (ofRuns_markup content)
  | strikethrough content => exact .wrap rfl (by decide) (ofRuns_markup content)
  | link href content => exact .wrap rfl (by simp [Tag.forms]) (ofRuns_markup content)
  | softBreak => exact .text " " .nil
  | hardBreak => exact .void rfl (by decide) .nil
termination_by sizeOf run

theorem ofRuns_markup (runs : List Run) : Markup (ofRuns runs) := by
  cases runs with
  | nil => exact .nil
  | cons run rest => exact (ofRun_markup run).append (ofRuns_markup rest)
termination_by sizeOf runs

end

/-- The attributes of an image are those of one of its forms: with a width or without. -/
theorem imageAttributes_form (classes : List String) (content : Content Node) (attrs : Attrs)
    : (imageAttributes classes content attrs).map Prod.fst ∈ Tag.img.forms := by
  cases width : attrs.customWidth <;>
    simp [imageAttributes, width, classValue, widthStyle, Tag.forms]

mutual

/-- Every tree is rendered as markup; mutual recursion over nodes and their contents. -/
theorem ofNode_markup (node : Node) : Markup (ofNode node) := by
  rcases node with ⟨kind, classes, content, attrs⟩
  have form : [classValue classes].map Prod.fst ∈ Tag.div.forms := List.mem_singleton_self _
  have block : Markup (.start .div [classValue classes] :: ofContent content ++ [.finish .div]) :=
    .wrap rfl form (ofContent_markup content)
  cases kind with
  | root =>
      have style : Markup
          (.start .style [] :: ([.stylesheet] ++ .finish .style :: ofChildren content)) :=
        .element rfl (by decide) (.stylesheet .nil) (ofChildren_markup content)
      simp only [ofNode]
      exact .wrap rfl form style
  | hr =>
      simp only [ofNode]
      exact .void rfl form .nil
  | img =>
      simp only [ofNode]
      exact .void rfl (imageAttributes_form classes content attrs) .nil
  | embeddedImg =>
      simp only [ofNode]
      exact .void rfl (imageAttributes_form classes content attrs) .nil
  | embeddedText =>
      simp only [ofNode]
      refine .wrap rfl form ?_
      split
      · exact .text _ .nil
      · exact ofRuns_markup attrs.inlines
  | _ =>
      simp only [ofNode]
      exact block
termination_by sizeOf node

theorem ofContent_markup (content : Content Node) : Markup (ofContent content) := by
  cases content with
  | text value => exact .text value .nil
  | children nodes => exact ofNodes_markup nodes
  | empty => exact .nil
  | locator value => exact .nil
termination_by sizeOf content

theorem ofChildren_markup (content : Content Node) : Markup (ofChildren content) := by
  cases content with
  | children nodes => exact ofNodes_markup nodes
  | text value => exact .nil
  | empty => exact .nil
  | locator value => exact .nil
termination_by sizeOf content

theorem ofNodes_markup (nodes : List Node) : Markup (ofNodes nodes) := by
  cases nodes with
  | nil => exact .nil
  | cons node rest => exact (ofNode_markup node).append (ofNodes_markup rest)
termination_by sizeOf nodes

end

/-- A tag as it stands between its brackets, without the values of its attributes. -/
def Token.tag? : Token → Option String
  | start tag attributes =>
      some (tag.name ++
        String.join ((attributes.map Prod.fst).map fun named => " " ++ named.name ++ "=\"\""))
  | finish tag => some ("/" ++ tag.name)
  | text _ => none
  | stylesheet => none

end Html

-----------------------------------------------------------------------------------------
-- Trees without their strings
-----------------------------------------------------------------------------------------

namespace Run

mutual

/-- The run without its texts and the targets of its links. -/
def skeleton : Run → Run
  | text _ => text ""
  | strong content => strong (skeletons content)
  | emphasis content => emphasis (skeletons content)
  | strikethrough content => strikethrough (skeletons content)
  | code _ => code ""
  | link _ content => link "" (skeletons content)
  | softBreak => softBreak
  | hardBreak => hardBreak

/-- Runs without their texts and the targets of their links. -/
def skeletons : List Run → List Run
  | [] => []
  | run :: rest => run.skeleton :: skeletons rest

end

end Run

/-- The attributes without all but the structure of the runs and whether a width is given. -/
def Attrs.skeleton (attrs : Attrs) : Attrs :=
  { customWidth := attrs.customWidth.map fun _ => .zero,
    inlines := Run.skeletons attrs.inlines }

namespace Node

mutual

/-- The tree without all but its kinds, the variants of its contents, its structure, that of its
inline runs, and which widths are given.
-/
def skeleton : Node → Node
  | ⟨kind, _, content, attrs⟩ => ⟨kind, [], contentSkeleton content, attrs.skeleton⟩

/-- The variant of the content of a node, with the skeletons of its children. -/
def contentSkeleton : Content Node → Content Node
  | .empty => .empty
  | .text _ => .text ""
  | .locator _ => .locator ""
  | .children nodes => .children (skeletons nodes)

/-- The skeletons of trees. -/
def skeletons : List Node → List Node
  | [] => []
  | node :: rest => node.skeleton :: skeletons rest

end

end Node

namespace Html

mutual

theorem ofRun_skeleton (run : Run)
    : (ofRun run.skeleton).filterMap Token.tag? = (ofRun run).filterMap Token.tag? := by
  cases run with
  | text value => rfl
  | code value => rfl
  | softBreak => rfl
  | hardBreak => rfl
  | strong content =>
      simp only [Run.skeleton, ofRun, List.filterMap_append, List.filterMap_cons,
        ofRuns_skeleton content]
  | emphasis content =>
      simp only [Run.skeleton, ofRun, List.filterMap_append, List.filterMap_cons,
        ofRuns_skeleton content]
  | strikethrough content =>
      simp only [Run.skeleton, ofRun, List.filterMap_append, List.filterMap_cons,
        ofRuns_skeleton content]
  | link href content =>
      simp only [Run.skeleton, ofRun, List.filterMap_append, List.filterMap_cons,
        ofRuns_skeleton content, Token.tag?, List.map_cons]
termination_by sizeOf run

theorem ofRuns_skeleton (runs : List Run)
    : (ofRuns (Run.skeletons runs)).filterMap Token.tag?
      = (ofRuns runs).filterMap Token.tag? := by
  cases runs with
  | nil => rfl
  | cons run rest =>
      simp only [Run.skeletons, ofRuns, List.filterMap_append, ofRun_skeleton run,
        ofRuns_skeleton rest]
termination_by sizeOf runs

end

theorem image_skeleton (classes : List String) (content : Content Node) (attrs : Attrs)
    : [Token.start .img
          (imageAttributes [] (Node.contentSkeleton content) attrs.skeleton)].filterMap Token.tag?
      = [Token.start .img (imageAttributes classes content attrs)].filterMap Token.tag? := by
  cases width : attrs.customWidth <;>
    simp [imageAttributes, Attrs.skeleton, width, Token.tag?, classValue, widthStyle]

mutual

/-- The tags of a tree and their attributes are those of the tree without its strings. -/
theorem ofNode_skeleton (node : Node)
    : (ofNode node.skeleton).filterMap Token.tag? = (ofNode node).filterMap Token.tag? := by
  rcases node with ⟨kind, classes, content, attrs⟩
  cases kind with
  | root =>
      simp only [Node.skeleton, ofNode, List.filterMap_append, ofChildren_skeleton content]
      rfl
  | hr => rfl
  | img => exact image_skeleton classes content attrs
  | embeddedImg => exact image_skeleton classes content attrs
  | embeddedText =>
      have blank : attrs.skeleton.inlines.isEmpty = attrs.inlines.isEmpty := by
        cases runs : attrs.inlines <;> simp [Attrs.skeleton, Run.skeletons, runs]
      simp only [Node.skeleton, ofNode, blank, List.filterMap_append, List.filterMap_cons]
      cases attrs.inlines.isEmpty with
      | true => rfl
      | false =>
          simp only [Bool.false_eq_true, if_false, Attrs.skeleton, ofRuns_skeleton attrs.inlines]
          rfl
  | _ =>
      simp only [Node.skeleton, ofNode, List.filterMap_append, List.filterMap_cons,
        ofContent_skeleton content]
      rfl
termination_by sizeOf node

theorem ofContent_skeleton (content : Content Node)
    : (ofContent (Node.contentSkeleton content)).filterMap Token.tag?
      = (ofContent content).filterMap Token.tag? := by
  cases content with
  | children nodes => exact ofNodes_skeleton nodes
  | text value => rfl
  | empty => rfl
  | locator value => rfl
termination_by sizeOf content

theorem ofChildren_skeleton (content : Content Node)
    : (ofChildren (Node.contentSkeleton content)).filterMap Token.tag?
      = (ofChildren content).filterMap Token.tag? := by
  cases content with
  | children nodes => exact ofNodes_skeleton nodes
  | text value => rfl
  | empty => rfl
  | locator value => rfl
termination_by sizeOf content

theorem ofNodes_skeleton (nodes : List Node)
    : (ofNodes (Node.skeletons nodes)).filterMap Token.tag?
      = (ofNodes nodes).filterMap Token.tag? := by
  cases nodes with
  | nil => rfl
  | cons node rest =>
      simp only [Node.skeletons, ofNodes, List.filterMap_append, ofNode_skeleton node,
        ofNodes_skeleton rest]
termination_by sizeOf nodes

end

end Html

end MessageCard
