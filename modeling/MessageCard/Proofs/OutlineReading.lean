import MessageCard.Proofs.OutlineLines

/-! Outlines can be read back.  The line of a node tells everything that the node holds by itself, but
for the inline runs of a text in a note, and the indentation of the lines tells which nodes are
children of which.  So compiled trees with the same outline are the same but for those runs, if no
locator of an image breaks its line.
-/

namespace MessageCard

-----------------------------------------------------------------------------------------
-- Trees without runs
-----------------------------------------------------------------------------------------

/-- The attributes of a node of the kind, without the inline runs of a text in a note. -/
def Attrs.withoutRuns (attrs : Attrs) (kind : Kind) : Attrs :=
  if kind = .embeddedText then { attrs with inlines := [] } else attrs

namespace Node

mutual

/-- The tree without the inline runs of the texts in its notes. -/
def withoutRuns : Node → Node
  | ⟨kind, classes, content, attrs⟩ =>
      ⟨kind, classes, contentWithoutRuns content, attrs.withoutRuns kind⟩

/-- The content of a node without the runs of the texts in it. -/
def contentWithoutRuns : Content Node → Content Node
  | .empty => .empty
  | .text value => .text value
  | .locator value => .locator value
  | .children nodes => .children (allWithoutRuns nodes)

/-- Trees without the runs of the texts in them. -/
def allWithoutRuns : List Node → List Node
  | [] => []
  | node :: rest => node.withoutRuns :: allWithoutRuns rest

end

theorem allWithoutRuns_eq (nodes : List Node) : allWithoutRuns nodes = nodes.map withoutRuns := by
  induction nodes with
  | nil => rfl
  | cons node rest ih => rw [allWithoutRuns, ih, List.map_cons]

/-- The content of a node without its children. -/
def ownContent : Content Node → Content Node
  | .children _ => .children []
  | content => content

/-- What a node holds by itself: neither its children nor the inline runs of a text in a note. -/
def own (node : Node) : Node where
  kind := node.kind
  classes := node.classes
  content := ownContent node.content
  attrs := node.attrs.withoutRuns node.kind

/-- A tree without runs is what its root holds by itself and its children without runs. -/
theorem withoutRuns_eq_of_own {node other : Node} (own : node.own = other.own)
    (children : node.children.map withoutRuns = other.children.map withoutRuns)
    : node.withoutRuns = other.withoutRuns := by
  rcases node with ⟨kind, classes, content, attrs⟩
  rcases other with ⟨otherKind, otherClasses, otherContent, otherAttrs⟩
  obtain ⟨rfl, rfl, sameContent, sameAttrs⟩ := Node.mk.inj own
  have sameWithout : contentWithoutRuns content = contentWithoutRuns otherContent := by
    cases content <;> cases otherContent <;> cases sameContent
    · rfl
    · rfl
    · rfl
    · simp only [contentWithoutRuns, allWithoutRuns_eq]
      exact congrArg Content.children children
  rw [withoutRuns, withoutRuns, sameWithout, sameAttrs]

-----------------------------------------------------------------------------------------
-- Trees from their nodes
-----------------------------------------------------------------------------------------

/-- A node as it is told from its line: its depth and what it holds by itself. -/
def told (entry : Nat × Node) : Nat × Node :=
  (entry.1, entry.2.own)

/-- What comes next, if anything, does not stand below the depth. -/
def EndsAt (depth : Nat) (rest : List (Nat × Node)) : Prop :=
  ∀ entry, rest.head? = some entry → entry.1 ≤ depth

/-- The node can be read back from what is told of its tree, whatever follows that is not below it. -/
def Readable (node : Node) : Prop :=
  ∀ (other : Node) (depth : Nat) (rest more : List (Nat × Node)),
    EndsAt depth rest
    → EndsAt depth more
    → (node.preorder depth).map told ++ rest = (other.preorder depth).map told ++ more
    → node.withoutRuns = other.withoutRuns ∧ rest = more

theorem told_preorder (depth : Nat) (node : Node)
    : (node.preorder depth).map told
      = (depth, node.own)
          :: (node.children.flatMap (preorder (depth + 1))).map told := by
  rw [preorder_eq, List.map_cons]
  rfl

/-- Trees in a row start one level deeper than what may follow them all. -/
theorem endsAt_forest {depth : Nat} {rest : List (Nat × Node)} (ends : EndsAt depth rest)
    (nodes : List Node)
    : EndsAt (depth + 1) ((nodes.flatMap (preorder (depth + 1))).map told ++ rest) := by
  intro entry first
  cases nodes with
  | nil => exact Nat.le_succ_of_le (ends entry first)
  | cons node nodes =>
      rw [List.flatMap_cons, List.map_append, told_preorder] at first
      cases first
      exact Nat.le_refl _

/-- What may follow trees in a row does not start like them. -/
theorem EndsAt.ne_forest {depth : Nat} {rest : List (Nat × Node)} (ends : EndsAt depth rest)
    (node : Node) (nodes : List Node) (more : List (Nat × Node))
    : rest ≠ ((node :: nodes).flatMap (preorder (depth + 1))).map told ++ more := by
  rintro rfl
  rw [List.flatMap_cons, List.map_append, told_preorder] at ends
  exact Nat.not_succ_le_self depth (ends _ rfl)

/-- Readable trees in a row can be read back, by induction over them. -/
theorem readable_forest {nodes : List Node} (each : ∀ node ∈ nodes, node.Readable)
    {others : List Node} {depth : Nat} {rest more : List (Nat × Node)} (ends : EndsAt depth rest)
    (otherEnds : EndsAt depth more)
    (same
      : (nodes.flatMap (preorder (depth + 1))).map told ++ rest
        = (others.flatMap (preorder (depth + 1))).map told ++ more)
    : nodes.map withoutRuns = others.map withoutRuns ∧ rest = more := by
  induction nodes generalizing others with
  | nil =>
      cases others with
      | nil => exact ⟨rfl, same⟩
      | cons other others => exact (ends.ne_forest other others more same).elim
  | cons node nodes ih =>
      cases others with
      | nil => exact (otherEnds.ne_forest node nodes rest same.symm).elim
      | cons other others =>
          simp only [List.flatMap_cons, List.map_append, List.append_assoc] at same
          obtain ⟨first, after⟩ :=
            each node List.mem_cons_self other (depth + 1) _ _ (endsAt_forest ends nodes)
              (endsAt_forest otherEnds others) same
          obtain ⟨later, ended⟩ := ih (fun node listed => each node (.tail _ listed)) after
          exact ⟨by rw [List.map_cons, List.map_cons, first, later], ended⟩

/-- Every tree can be read back, by induction from the leaves. -/
theorem readable (node : Node) : node.Readable := by
  induction node using fromChildren with
  | step node ih =>
      intro other depth rest more ends otherEnds same
      rw [told_preorder, told_preorder] at same
      obtain ⟨root, below⟩ := List.cons.inj same
      obtain ⟨children, after⟩ := readable_forest ih ends otherEnds below
      exact ⟨withoutRuns_eq_of_own (Prod.mk.inj root).2 children, after⟩

theorem withoutRuns_eq_of_told {tree other : Node}
    (same : (tree.preorder 0).map told = (other.preorder 0).map told)
    : tree.withoutRuns = other.withoutRuns := by
  have ends : EndsAt 0 [] := fun _ none => by cases none
  have texts : (tree.preorder 0).map told ++ [] = (other.preorder 0).map told ++ [] := by
    rw [same]
  exact (tree.readable other 0 [] [] ends ends texts).1

-----------------------------------------------------------------------------------------
-- Nodes from their lines
-----------------------------------------------------------------------------------------

/-- What follows the kind on the line of a node. -/
def description (node : Node) : List Char :=
  (classesOutline node.classes).toList
    ++ (node.attrs.outline.toList ++ node.content.outline.toList)

theorem kind_eq_of_name {kind other : Kind} (same : kind.name.toList = other.name.toList)
    : kind = other := by
  have names := congrArg Kind.ofName? (String.toList_inj.mp same)
  rw [Kind.ofName?_name, Kind.ofName?_name] at names
  exact Option.some.inj names

/-- A line tells the depth and the kind of its node, and what follows the kind. -/
theorem line_inj {depth otherDepth : Nat} {node other : Node}
    (same : line (depth, node) = line (otherDepth, other))
    : depth = otherDepth ∧ node.kind = other.kind ∧ node.description = other.description := by
  obtain ⟨blanks, name⟩ := line_indent depth node
  obtain ⟨otherBlanks, otherName⟩ := line_indent otherDepth other
  rw [same, otherBlanks] at blanks
  rw [same, otherName] at name
  have depths : depth = otherDepth := by
    have lengths := congrArg List.length blanks
    simp only [List.length_replicate] at lengths
    omega
  have kinds := kind_eq_of_name name.symm
  subst depths
  have headlines := List.append_cancel_left same
  rw [headline_toList, headline_toList, kinds] at headlines
  exact ⟨rfl, kinds, List.append_cancel_left headlines⟩

theorem text_inj {text other : String}
    (same
      : (Content.text text : Content Node).outline.toList
        = (Content.text other : Content Node).outline.toList)
    : text = other := by
  have quoted : (Text.quoted text).toList ++ [] = (Text.quoted other).toList ++ [] := by
    simpa [Content.outline] using same
  exact (Text.quoted_append_inj quoted).1

/-- The text that stands for an image ends where its quotes do, and the locator at the end of the line.
-/
theorem altLocator_inj {alt otherAlt key otherKey : String}
    (same
      : (Text.quoted alt).toList
          ++ (Content.locator (imageEndpoint ++ key) : Content Node).outline.toList
        = (Text.quoted otherAlt).toList
          ++ (Content.locator (imageEndpoint ++ otherKey) : Content Node).outline.toList)
    : alt = otherAlt ∧ key = otherKey := by
  obtain ⟨alts, locators⟩ := Text.quoted_append_inj same
  have keys : key.toList = otherKey.toList := by
    simpa [Content.outline] using locators
  exact ⟨alts, String.toList_inj.mp keys⟩

/-- The template of a header is named in its classes, up to their closing bracket. -/
theorem header_inj {template otherTemplate : Template} {title otherTitle : String}
    (same
      : description
          { kind := .header
            classes := [Style.header, template.name]
            content := .text title
            attrs := { template := some template } }
        = description
          { kind := .header
            classes := [Style.header, otherTemplate.name]
            content := .text otherTitle
            attrs := { template := some otherTemplate } })
    : template = otherTemplate ∧ title = otherTitle := by
  have clean (template : Template) : ']' ∉ template.name.toList := by
    cases template <;> decide
  have bracketed
      : template.name.toList
          ++ ']' :: (" template=".toList ++ (template.name.toList
            ++ (Content.text title : Content Node).outline.toList))
        = otherTemplate.name.toList
          ++ ']' :: (" template=".toList ++ (otherTemplate.name.toList
            ++ (Content.text otherTitle : Content Node).outline.toList)) := by
    simpa [description, classesOutline, Attrs.outline] using same
  obtain ⟨names, after⟩ := Text.delimited_inj (clean template) (clean otherTemplate) bracketed
  have found := congrArg Template.ofName? (String.toList_inj.mp names)
  rw [Template.ofName?_name, Template.ofName?_name] at found
  obtain rfl := Option.some.inj found
  exact ⟨rfl, text_inj (List.append_cancel_left (List.append_cancel_left after))⟩

/-- A width ends at the blank before the text that stands for the image. -/
theorem img_inj {key otherKey alt otherAlt : String} {compact otherCompact : Bool}
    {width otherWidth : Option Double}
    (finite : ∀ number, width = some number → number.isFinite = true)
    (otherFinite : ∀ number, otherWidth = some number → number.isFinite = true)
    (same
      : description
          { kind := .img
            classes := [Style.element, Kind.img.name] ++ if compact then [Style.compact] else []
            content := .locator (imageEndpoint ++ key)
            attrs := { compact, customWidth := width, alt := some alt } }
        = description
          { kind := .img
            classes :=
              [Style.element, Kind.img.name] ++ if otherCompact then [Style.compact] else []
            content := .locator (imageEndpoint ++ otherKey)
            attrs :=
              { compact := otherCompact, customWidth := otherWidth, alt := some otherAlt } })
    : compact = otherCompact ∧ width = otherWidth ∧ alt = otherAlt ∧ key = otherKey := by
  have clean {width : Double} : ' ' ∉ width.plain.toList := fun member => by
    simpa using Double.plain_alphabet member
  have compacts : compact = otherCompact := by
    cases compact <;> cases otherCompact <;>
      first
      | rfl
      | simp [description, classesOutline, Style.element, Style.compact, Kind.name] at same
  subst compacts
  have words := List.append_cancel_left same
  cases width with
  | none =>
      cases otherWidth with
      | none =>
          refine ⟨rfl, rfl, altLocator_inj ?_⟩
          cases compact <;> simpa [Attrs.outline] using words
      | some number => cases compact <;> simp [Attrs.outline] at words
  | some number =>
      cases otherWidth with
      | none => cases compact <;> simp [Attrs.outline] at words
      | some otherNumber =>
          have spaced
              : number.plain.toList
                  ++ ' ' :: ("alt=".toList ++ ((Text.quoted alt).toList
                    ++ (Content.locator (imageEndpoint ++ key) : Content Node).outline.toList))
                = otherNumber.plain.toList
                  ++ ' ' :: ("alt=".toList ++ ((Text.quoted otherAlt).toList
                    ++ (Content.locator (imageEndpoint ++ otherKey) : Content Node).outline.toList))
              := by
            cases compact <;> simpa [Attrs.outline] using words
          obtain ⟨numbers, after⟩ := Text.delimited_inj clean clean spaced
          have widths : number = otherNumber :=
            Double.plain_injective (finite number rfl) (otherFinite otherNumber rfl)
              (String.toList_inj.mp numbers)
          exact ⟨rfl, congrArg some widths, altLocator_inj (List.append_cancel_left after)⟩

theorem embeddedImg_inj {key otherKey alt otherAlt : String} {preview otherPreview : Bool}
    (same
      : description
          { kind := .embeddedImg
            classes := [Style.embedded, Style.embeddedImg]
            content := .locator (imageEndpoint ++ key)
            attrs := { size := some 16, preview := some preview, alt := some alt } }
        = description
          { kind := .embeddedImg
            classes := [Style.embedded, Style.embeddedImg]
            content := .locator (imageEndpoint ++ otherKey)
            attrs := { size := some 16, preview := some otherPreview, alt := some otherAlt } })
    : preview = otherPreview ∧ alt = otherAlt ∧ key = otherKey := by
  have words := List.append_cancel_left same
  have previews : preview = otherPreview := by
    cases preview <;> cases otherPreview <;>
      first
      | rfl
      | simp [Attrs.outline] at words
  subst previews
  refine ⟨rfl, altLocator_inj ?_⟩
  simpa [Attrs.outline] using words

/-- Nodes of one kind with the same description hold the same by themselves, cases on the kind. -/
theorem Shaped.own_eq {node other : Node} (shaped : node.Shaped) (otherShaped : other.Shaped)
    (kind : node.kind = other.kind) (same : node.description = other.description)
    : node.own = other.own := by
  cases shaped with
  | root _ _ =>
      cases otherShaped with
      | root _ _ => rfl
      | _ => cases kind
  | header =>
      cases otherShaped with
      | header =>
          obtain ⟨rfl, rfl⟩ := header_inj same
          rfl
      | _ => cases kind
  | elementsContainer _ =>
      cases otherShaped with
      | elementsContainer _ => rfl
      | _ => cases kind
  | div _ =>
      cases otherShaped with
      | div _ =>
          rw [text_inj (List.append_cancel_left (List.append_cancel_left same))]
      | _ => cases kind
  | hr =>
      cases otherShaped with
      | hr => rfl
      | _ => cases kind
  | img _ bounded =>
      cases otherShaped with
      | img _ otherBounded =>
          obtain ⟨rfl, rfl, rfl, rfl⟩ :=
            img_inj (fun number set => (bounded number set).1)
              (fun number set => (otherBounded number set).1) same
          rfl
      | _ => cases kind
  | note _ _ =>
      cases otherShaped with
      | note _ _ => rfl
      | _ => cases kind
  | columnSet _ _ =>
      cases otherShaped with
      | columnSet _ _ => rfl
      | _ => cases kind
  | column _ =>
      cases otherShaped with
      | column _ => rfl
      | _ => cases kind
  | embeddedText _ _ =>
      cases otherShaped with
      | embeddedText _ _ =>
          obtain rfl := text_inj (List.append_cancel_left (List.append_cancel_left same))
          rfl
      | _ => cases kind
  | embeddedImg _ =>
      cases otherShaped with
      | embeddedImg _ =>
          obtain ⟨rfl, rfl, rfl⟩ := embeddedImg_inj same
          rfl
      | _ => cases kind

/-- Nodes with the shapes of their kinds are told from their lines, by induction over the lines. -/
theorem told_eq_of_lines {entries others : List (Nat × Node)}
    (shaped : ∀ entry ∈ entries, entry.2.Shaped) (otherShaped : ∀ entry ∈ others, entry.2.Shaped)
    (same : entries.map line = others.map line)
    : entries.map told = others.map told := by
  induction entries generalizing others with
  | nil =>
      cases others with
      | nil => rfl
      | cons other others => cases same
  | cons entry entries ih =>
      cases others with
      | nil => cases same
      | cons other others =>
          obtain ⟨lines, later⟩ := List.cons.inj same
          obtain ⟨depths, kinds, descriptions⟩ := line_inj lines
          have owns :=
            (shaped entry List.mem_cons_self).own_eq (otherShaped other List.mem_cons_self) kinds
              descriptions
          have rest :=
            ih (fun entry listed => shaped entry (.tail _ listed))
              (fun entry listed => otherShaped entry (.tail _ listed)) later
          rw [List.map_cons, List.map_cons, rest, told, told, depths, owns]

-----------------------------------------------------------------------------------------
-- Outlines of compiled trees
-----------------------------------------------------------------------------------------

/-- A line does not show the runs of a node. -/
theorem headline_withoutRuns (node : Node) : node.withoutRuns.headline = node.headline := by
  rcases node with ⟨kind, classes, content, attrs⟩
  have attributes : (attrs.withoutRuns kind).outline = attrs.outline := by
    rw [Attrs.withoutRuns]
    split <;> rfl
  have contents : (contentWithoutRuns content).outline = content.outline := by
    cases content <;> rfl
  simp only [withoutRuns, headline, attributes, contents]

theorem children_withoutRuns (node : Node)
    : node.withoutRuns.children = node.children.map withoutRuns := by
  rcases node with ⟨kind, classes, content, attrs⟩
  rw [withoutRuns]
  cases content with
  | children nodes => exact allWithoutRuns_eq nodes
  | _ => rfl

/-- Runs have no part in an outline, by induction from the leaves. -/
theorem lines_withoutRuns (depth : Nat) (node : Node)
    : node.withoutRuns.lines depth = node.lines depth := by
  induction node using fromChildren generalizing depth with
  | step node ih =>
      have below
          : node.children.flatMap (fun child => child.withoutRuns.lines (depth + 1))
            = node.children.flatMap (lines (depth + 1)) :=
        List.flatMap_congr fun child listed => ih child listed (depth + 1)
      rw [lines_eq, lines_eq depth node, headline_withoutRuns, children_withoutRuns, List.flatMap_map,
        below]

theorem outline_withoutRuns (tree : Node) : tree.withoutRuns.outline = tree.outline := by
  rw [outline, outline, lines_withoutRuns]

/-- A tree of nodes with the shapes of their kinds is told from its outline, but for its runs, if its
locators do not break their lines.
-/
theorem withoutRuns_eq_of_outline {tree other : Node}
    (shaped : ∀ depth node, tree.Lies depth node → node.Shaped)
    (otherShaped : ∀ depth node, other.Lies depth node → node.Shaped)
    (onLine : tree.LocatorsOnLine) (otherOnLine : other.LocatorsOnLine)
    (same : tree.outline = other.outline)
    : tree.withoutRuns = other.withoutRuns := by
  have whole := (splitOn_outline_iff shaped).mpr onLine
  rw [same, (splitOn_outline_iff otherShaped).mpr otherOnLine] at whole
  have lines := List.append_cancel_right whole.symm
  have listed {tree : Node} (shaped : ∀ depth node, tree.Lies depth node → node.Shaped)
      : ∀ entry ∈ tree.preorder 0, entry.2.Shaped := by
    intro entry member
    obtain ⟨below, _, lies⟩ := mem_preorder_iff.mp member
    exact shaped below entry.2 lies
  exact withoutRuns_eq_of_told (told_eq_of_lines (listed shaped) (listed otherShaped) lines)

end Node

/-- Outlines tell compiled trees apart.  Whatever documents two trees were compiled from, and with
whatever options, if no locator breaks its line, then they have the same outline exactly when they
are the same but for the inline runs of the texts in their notes.
-/
theorem Document.compile_outline_iff {document other : Document} {options otherOptions : Options}
    {compilation otherCompilation : Compilation}
    (compiled : document.compile options = .ok compilation)
    (otherCompiled : other.compile otherOptions = .ok otherCompilation)
    (onLine : compilation.tree.LocatorsOnLine) (otherOnLine : otherCompilation.tree.LocatorsOnLine)
    : compilation.tree.outline = otherCompilation.tree.outline
      ↔ compilation.tree.withoutRuns = otherCompilation.tree.withoutRuns := by
  constructor
  · exact Node.withoutRuns_eq_of_outline (Document.tree_wellFormed compiled).shaped
      (Document.tree_wellFormed otherCompiled).shaped onLine otherOnLine
  · intro same
    rw [← Node.outline_withoutRuns, same, Node.outline_withoutRuns]

/-- The document of a card with a note of an image and a text with the tag. -/
def annotatedCard (tag : String) : Document :=
  .ofFields
    [("elements", .array
      [.object
        [("elements", .array
          [.object [("alt", .string "a"), ("img_key", .string "k"), ("tag", .string "img")],
            .object [("content", .string "*b*"), ("tag", .string tag)]]),
          ("tag", .string "note")]])] 0

/-- A text has runs only when it is read as Markdown, which the outline of the annotated card does not
show.  Witness: evaluation of both compilations.
-/
theorem annotatedCard_outlines
    : ∃ plain marked,
        (annotatedCard "plain_text").compile {} = .ok plain
        ∧ (annotatedCard "lark_md").compile {} = .ok marked
        ∧ plain.tree.LocatorsOnLine
        ∧ marked.tree.LocatorsOnLine
        ∧ plain.tree.outline = marked.tree.outline
        ∧ plain.tree.withoutRuns = marked.tree.withoutRuns
        ∧ plain.tree ≠ marked.tree := by
  have evaluated
      : (((annotatedCard "plain_text").compile {}).toOption.map fun plain =>
          ((annotatedCard "lark_md").compile {}).toOption.map fun marked =>
            decide
              (plain.tree.LocatorsOnLine
                ∧ marked.tree.LocatorsOnLine
                ∧ plain.tree.outline = marked.tree.outline
                ∧ (plain.tree.preorder 0).map (·.2.attrs.inlines.length)
                  ≠ (marked.tree.preorder 0).map (·.2.attrs.inlines.length)))
        = some (some true) := by
    decide +kernel
  obtain ⟨plain, compiled, evaluated⟩ := ok_of_toOption_map evaluated
  obtain ⟨marked, otherCompiled, decided⟩ := ok_of_toOption_map evaluated
  obtain ⟨onLine, otherOnLine, outlines, runs⟩ := of_decide_eq_true decided
  have trees :=
    (Document.compile_outline_iff compiled otherCompiled onLine otherOnLine).mp outlines
  exact ⟨plain, marked, compiled, otherCompiled, onLine, otherOnLine, outlines, trees,
    fun same => runs (by rw [same])⟩

/-- The document of a card of images with the keys. -/
def imagesCard (keys : List String) : Document :=
  .ofFields
    [("elements", .array
      (keys.map fun key =>
        .object [("alt", .string "a"), ("img_key", .string key), ("tag", .string "img")]))] 0

/-- A key that closes its locator and goes on with the line of another image. -/
def forgedKey : String :=
  "k>\n    img [lark-card-element img] alt=\"a\" <" ++ imageEndpoint ++ "m"

/-- Trees are not told apart when a locator breaks its line: a card with the forged key has the outline
of one with two images.  Witness: evaluation of both compilations.
-/
theorem forgedKey_outline
    : ∃ single double,
        (imagesCard [forgedKey]).compile {} = .ok single
        ∧ (imagesCard ["k", "m"]).compile {} = .ok double
        ∧ single.tree.outline = double.tree.outline
        ∧ single.tree.withoutRuns ≠ double.tree.withoutRuns := by
  have evaluated
      : (((imagesCard [forgedKey]).compile {}).toOption.map fun single =>
          ((imagesCard ["k", "m"]).compile {}).toOption.map fun double =>
            decide
              (single.tree.outline = double.tree.outline
                ∧ (single.tree.withoutRuns.preorder 0).length
                  ≠ (double.tree.withoutRuns.preorder 0).length))
        = some (some true) := by
    decide +kernel
  obtain ⟨single, compiled, evaluated⟩ := ok_of_toOption_map evaluated
  obtain ⟨double, otherCompiled, decided⟩ := ok_of_toOption_map evaluated
  obtain ⟨outlines, lengths⟩ := of_decide_eq_true decided
  exact ⟨single, double, compiled, otherCompiled, outlines, fun same => lengths (by rw [same])⟩

end MessageCard
