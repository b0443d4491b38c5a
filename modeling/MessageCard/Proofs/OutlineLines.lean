import MessageCard.Node.Outline
import MessageCard.Proofs.PlainNumber
import MessageCard.Proofs.TreeShape

/-! The lines of an outline.  A tree has its nodes in pre-order, and each of them has one line, which
its depth indents and its kind starts.  The strings of a tree are quoted and stay on their lines, but
for the locators of images: the lines of an outline are those of the nodes exactly when no locator
breaks its own.
-/

namespace MessageCard

-----------------------------------------------------------------------------------------
-- Pre-order
-----------------------------------------------------------------------------------------

namespace Node

mutual

/-- The nodes of a tree in pre-order, each with its depth, from the depth of the root on. -/
def preorder (depth : Nat) : Node → List (Nat × Node)
  | ⟨kind, classes, content, attrs⟩ =>
      (depth, ⟨kind, classes, content, attrs⟩) :: preorderOfContent (depth + 1) content

/-- The nodes in some content, in pre-order. -/
def preorderOfContent (depth : Nat) : Content Node → List (Nat × Node)
  | .empty => []
  | .text _ => []
  | .locator _ => []
  | .children nodes => preorderOfAll depth nodes

/-- The nodes of a list of trees in pre-order. -/
def preorderOfAll (depth : Nat) : List Node → List (Nat × Node)
  | [] => []
  | node :: rest => preorder depth node ++ preorderOfAll depth rest

end

theorem preorderOfAll_eq (depth : Nat) (nodes : List Node)
    : preorderOfAll depth nodes = nodes.flatMap (preorder depth) := by
  induction nodes with
  | nil => rfl
  | cons node rest ih => rw [preorderOfAll, ih, List.flatMap_cons]

theorem preorder_eq (depth : Nat) (node : Node)
    : node.preorder depth = (depth, node) :: node.children.flatMap (preorder (depth + 1)) := by
  rcases node with ⟨kind, classes, content, attrs⟩
  rw [preorder, ← preorderOfAll_eq]
  cases content <;> rfl

/-- A child is smaller than its parent. -/
theorem sizeOf_lt_of_child {node child : Node} (listed : child ∈ node.children)
    : sizeOf child < sizeOf node := by
  rcases node with ⟨kind, classes, content, attrs⟩
  cases content with
  | children nodes =>
      have inside : sizeOf child < sizeOf nodes := List.sizeOf_lt_of_mem listed
      simp only [mk.sizeOf_spec, Content.children.sizeOf_spec]
      omega
  | _ => cases listed

/-- What holds of a node when it holds of its children holds of every node. -/
@[elab_as_elim]
theorem fromChildren {motive : Node → Prop}
    (step : ∀ node, (∀ child ∈ node.children, motive child) → motive node) (node : Node)
    : motive node :=
  step node fun child listed =>
    have := sizeOf_lt_of_child listed
    fromChildren step child
termination_by sizeOf node

/-- The pre-order lists what lies in the tree, each node at its depth.  By induction from the leaves. -/
theorem mem_preorder_iff {tree node : Node} {start depth : Nat}
    : (depth, node) ∈ tree.preorder start
      ↔ ∃ below, depth = start + below ∧ tree.Lies below node := by
  induction tree using fromChildren generalizing start with
  | step tree ih =>
      rw [preorder_eq, List.mem_cons, List.mem_flatMap]
      constructor
      · rintro (same | ⟨child, listed, member⟩)
        · obtain ⟨rfl, rfl⟩ := Prod.mk.inj same
          exact ⟨0, rfl, .root⟩
        · obtain ⟨below, rfl, lies⟩ := (ih child listed).mp member
          exact ⟨below + 1, by omega, lies.of_child listed⟩
      · rintro ⟨below, rfl, lies⟩
        rcases lies.root_or_below with ⟨rfl, rfl⟩ | ⟨child, listed, deeper, rfl, inside⟩
        · exact Or.inl rfl
        · exact Or.inr ⟨child, listed, (ih child listed).mpr ⟨deeper, by omega, inside⟩⟩

-----------------------------------------------------------------------------------------
-- Outlines by lines
-----------------------------------------------------------------------------------------

/-- The line of a node at its depth. -/
def line (entry : Nat × Node) : List Char :=
  List.replicate (2 * entry.1) ' ' ++ entry.2.headline.toList

theorem linesOfAll_eq (depth : Nat) (nodes : List Node)
    : linesOfAll depth nodes = nodes.flatMap (lines depth) := by
  induction nodes with
  | nil => rfl
  | cons node rest ih => rw [linesOfAll, ih, List.flatMap_cons]

theorem lines_eq (depth : Nat) (node : Node)
    : node.lines depth
      = (indentation depth ++ node.headline) :: node.children.flatMap (lines (depth + 1)) := by
  rcases node with ⟨kind, classes, content, attrs⟩
  rw [lines, ← linesOfAll_eq]
  cases content <;> rfl

/-- The lines are those of the nodes in pre-order, by induction from the leaves. -/
theorem lines_preorder (depth : Nat) (node : Node)
    : (node.lines depth).map String.toList = (node.preorder depth).map line := by
  induction node using fromChildren generalizing depth with
  | step node ih =>
      have below : (node.children.flatMap (lines (depth + 1))).map String.toList
          = (node.children.flatMap (preorder (depth + 1))).map line := by
        rw [List.map_flatMap, List.map_flatMap]
        exact List.flatMap_congr fun child listed => ih child listed (depth + 1)
      rw [lines_eq, preorder_eq, List.map_cons, List.map_cons, below]
      simp [line, indentation]

theorem outline_toList (tree : Node)
    : tree.outline.toList = (tree.preorder 0).flatMap fun entry => line entry ++ ['\n'] := by
  have texts : (tree.lines 0).flatMap (fun text => text.toList ++ ['\n'])
      = ((tree.lines 0).map String.toList).flatMap (· ++ ['\n']) := by
    rw [List.flatMap_map]
  rw [lines_preorder, List.flatMap_map] at texts
  simpa [outline, List.flatMap_map] using texts

end Node

-----------------------------------------------------------------------------------------
-- What a line is made of
-----------------------------------------------------------------------------------------

/-- The words of a line that show attributes. -/
inductive Attrs.Shows (attrs : Attrs) : String → Prop
  | template {template : Template} (set : attrs.template = some template)
    : Shows attrs (" template=" ++ template.name)
  | compact (set : attrs.compact = true) : Shows attrs " compact"
  | customWidth {width : Double} (set : attrs.customWidth = some width)
    : Shows attrs (" custom_width=" ++ width.plain)
  | size {size : Nat} (set : attrs.size = some size) : Shows attrs (" size=" ++ toString size)
  | preview {preview : Bool} (set : attrs.preview = some preview)
    : Shows attrs (" preview=" ++ if preview then "true" else "false")
  | alt {alt : String} (set : attrs.alt = some alt) : Shows attrs (" alt=" ++ Text.quoted alt)

/-- The attributes of a line are words for those that are set. -/
theorem Attrs.outline_words (attrs : Attrs)
    : ∃ words : List String,
        attrs.outline.toList = words.flatMap String.toList ∧ ∀ word ∈ words, attrs.Shows word := by
  rw [Attrs.outline, String.toList_join]
  refine ⟨_, rfl, fun word member => ?_⟩
  simp only [List.mem_append, Option.mem_toList, Option.map_eq_some_iff, or_assoc] at member
  rcases member with ⟨_, set, rfl⟩ | compact | ⟨_, set, rfl⟩ | ⟨_, set, rfl⟩ | ⟨_, set, rfl⟩ |
    ⟨_, set, rfl⟩
  · exact .template set
  · split at compact
    · rename_i set
      rw [List.mem_singleton.mp compact]
      exact .compact set
    · cases compact
  · exact .customWidth set
  · exact .size set
  · exact .preview set
  · exact .alt set

/-- A word that shows an attribute starts with a blank. -/
theorem Attrs.Shows.spaced {attrs : Attrs} {word : String} (shown : attrs.Shows word)
    : ∃ rest, word.toList = ' ' :: rest := by
  cases shown with
  | compact _ => exact ⟨_, rfl⟩
  | _ => exact ⟨_, by rw [String.toList_append]; rfl⟩

/-- A word that shows an attribute stays on its line, cases on the attribute. -/
theorem Attrs.Shows.no_newline {attrs : Attrs} {word : String} (shown : attrs.Shows word)
    : '\n' ∉ word.toList := by
  cases shown with
  | @template template _ => cases template <;> decide
  | compact _ => decide
  | @customWidth width _ =>
      have plain : '\n' ∉ width.plain.toList := fun member => by
        simpa using Double.plain_alphabet member
      simpa using plain
  | @size size _ =>
      have digits : '\n' ∉ (toString size).toList := fun member => by
        rw [Nat.toString_eq_ofList_toDigits, String.toList_ofList] at member
        simpa using Nat.isDigit_of_mem_toDigits (by decide) (by decide) member
      simpa using digits
  | @preview preview _ => cases preview <;> decide
  | @alt alt _ => simpa using Text.quoted_no_newline alt

namespace Node

variable {node : Node}

theorem headline_toList (node : Node)
    : node.headline.toList
      = node.kind.name.toList
        ++ ((classesOutline node.classes).toList
          ++ (node.attrs.outline.toList ++ node.content.outline.toList)) := by
  simp [headline]

/-- A text is empty or starts with a blank. -/
def Spaced (text : List Char) : Prop :=
  text = [] ∨ ∃ rest, text = ' ' :: rest

theorem Spaced.append {text other : List Char} (first : Spaced text) (second : Spaced other)
    : Spaced (text ++ other) := by
  rcases first with rfl | ⟨rest, rfl⟩
  · exact second
  · exact Or.inr ⟨rest ++ other, rfl⟩

/-- What follows the kind on a line is set off by a blank. -/
theorem headline_kind (node : Node)
    : ∃ rest, node.headline.toList = node.kind.name.toList ++ rest ∧ Spaced rest := by
  refine ⟨_, node.headline_toList, .append ?classes (.append ?attrs ?content)⟩
  case classes =>
    rw [classesOutline]
    split
    · exact Or.inl rfl
    · exact Or.inr ⟨_, by rw [String.toList_append, String.toList_append]; rfl⟩
  case attrs =>
    obtain ⟨words, shown, each⟩ := node.attrs.outline_words
    rw [shown]
    cases words with
    | nil => exact Or.inl rfl
    | cons word rest =>
        obtain ⟨letters, spaced⟩ := (each word List.mem_cons_self).spaced
        exact Or.inr ⟨letters ++ rest.flatMap String.toList, by simp [spaced]⟩
  case content =>
    cases node.content with
    | text value => exact Or.inr ⟨_, by rw [Content.outline, String.toList_append]; rfl⟩
    | locator value =>
        exact Or.inr
          ⟨_, by rw [Content.outline, String.toList_append, String.toList_append]; rfl⟩
    | _ => exact Or.inl rfl

/-- No kind has a blank in its name. -/
theorem kind_no_blank (kind : Kind) : ' ' ∉ kind.name.toList := by
  cases kind <;> decide

/-- The classes of a node with the shape of its kind are names on one line. -/
theorem Shaped.classes_clean (shaped : node.Shaped)
    : ∀ name ∈ node.classes, '\n' ∉ name.toList := by
  have clean {names : List String} (each : names.all (!·.toList.contains '\n') = true)
      : ∀ name ∈ names, '\n' ∉ name.toList := by
    simpa using each
  cases shaped with
  | @header template title => cases template <;> exact clean (by dsimp only; decide)
  | @img key alt compact width named bounded =>
      cases compact <;> exact clean (by dsimp only; decide)
  | _ => exact clean (by dsimp only; decide)

/-- Names on one line make a list on one line, by induction over the names. -/
theorem classesOutline_no_newline {names : List String} (clean : ∀ name ∈ names, '\n' ∉ name.toList)
    : '\n' ∉ (classesOutline names).toList := by
  have inner : '\n' ∉ (String.intercalate " " names).toList := by
    rw [String.toList_intercalate]
    induction names with
    | nil => simp
    | cons first rest ih =>
        have head := clean first List.mem_cons_self
        have tail := ih fun name listed => clean name (List.mem_cons_of_mem _ listed)
        cases rest with
        | nil => simpa using head
        | cons second more =>
            rw [List.map_cons, List.map_cons, List.intercalate_cons_cons]
            simpa [head] using tail
  rw [classesOutline]
  split
  · decide
  · simpa using inner

/-- A line breaks only where its locator does. -/
theorem Shaped.count_headline (shaped : node.Shaped)
    : node.headline.toList.count '\n' = (node.locator.getD "").toList.count '\n' := by
  have kind : '\n' ∉ node.kind.name.toList := by cases node.kind <;> decide
  have classes := classesOutline_no_newline shaped.classes_clean
  have attrs : '\n' ∉ node.attrs.outline.toList := by
    obtain ⟨words, shown, each⟩ := node.attrs.outline_words
    rw [shown, List.mem_flatMap]
    rintro ⟨word, listed, inside⟩
    exact (each word listed).no_newline inside
  have content
      : node.content.outline.toList.count '\n' = (node.locator.getD "").toList.count '\n' := by
    rw [locator]
    cases node.content with
    | text value =>
        have clean := Text.quoted_no_newline value
        simp [Content.outline, List.count_eq_zero_of_not_mem clean]
    | locator value => simp [Content.outline]
    | _ => rfl
  simp only [headline_toList, List.count_append, List.count_eq_zero_of_not_mem kind,
    List.count_eq_zero_of_not_mem classes, List.count_eq_zero_of_not_mem attrs, content,
    Nat.zero_add]

-----------------------------------------------------------------------------------------
-- Outlines of compiled trees
-----------------------------------------------------------------------------------------

/-- The text splits at its newlines into the parts of the lines that it is made of. -/
theorem splitOn_lines (lines : List (List Char))
    : (lines.flatMap (· ++ ['\n'])).splitOn '\n' = lines.flatMap (·.splitOn '\n') ++ [[]] := by
  induction lines with
  | nil => rfl
  | cons line rest ih =>
      simp only [List.flatMap_cons, List.append_assoc, List.singleton_append,
        List.splitOn_append_cons_self, ih]

theorem splitOn_outline (tree : Node)
    : tree.outline.toList.splitOn '\n'
      = (tree.preorder 0).flatMap (fun entry => (line entry).splitOn '\n') ++ [[]] := by
  have lines := splitOn_lines ((tree.preorder 0).map line)
  rw [List.flatMap_map, List.flatMap_map] at lines
  rw [outline_toList, lines]

theorem count_outline (tree : Node)
    : tree.outline.toList.count '\n'
      = ((tree.preorder 0).map fun entry => (line entry).count '\n' + 1).sum := by
  rw [outline_toList, List.count_flatMap]
  congr 1
  refine List.map_congr_left fun entry _ => ?_
  simp

/-- The blanks before a line tell its depth, and the word after them its kind. -/
theorem line_indent (depth : Nat) (node : Node)
    : (line (depth, node)).takeWhile (· == ' ') = List.replicate (2 * depth) ' '
      ∧ ((line (depth, node)).dropWhile (· == ' ')).takeWhile (· != ' ')
        = node.kind.name.toList := by
  obtain ⟨rest, headline, spaced⟩ := node.headline_kind
  have blanks : ∀ c ∈ List.replicate (2 * depth) ' ', (c == ' ') = true := by
    intro c member
    rw [List.eq_of_mem_replicate member]
    rfl
  have letters : ∀ c ∈ node.kind.name.toList, (c != ' ') = true := by
    intro c member
    exact bne_iff_ne.mpr fun same => kind_no_blank node.kind (same ▸ member)
  have starts : ∃ first more, node.kind.name.toList = first :: more ∧ (first == ' ') = false := by
    cases node.kind <;> exact ⟨_, _, rfl, by decide⟩
  have ended : rest.takeWhile (· != ' ') = [] := by
    rcases spaced with rfl | ⟨more, rfl⟩ <;> rfl
  obtain ⟨first, more, name, letter⟩ := starts
  rw [line, headline, List.takeWhile_append_of_pos blanks, List.dropWhile_append_of_pos blanks]
  constructor
  · simp [name, letter]
  · rw [name, List.cons_append, List.dropWhile_cons_of_neg (by simp [letter]), ← List.cons_append,
      ← name, List.takeWhile_append_of_pos letters, ended, List.append_nil]

/-- No part of a split text holds what it was split at, by induction over the text. -/
theorem not_mem_of_mem_splitOn {text part : List Char} (listed : part ∈ text.splitOn '\n')
    : '\n' ∉ part := by
  induction text generalizing part with
  | nil =>
      rw [List.splitOn_nil, List.mem_singleton] at listed
      simp [listed]
  | cons c text ih =>
      rw [List.splitOn_cons_eq_if_modifyHead] at listed
      split at listed
      · rcases List.mem_cons.mp listed with rfl | later
        · simp
        · exact ih later
      · rename_i other
        cases parts : text.splitOn '\n' with
        | nil => exact (List.splitOn_ne_nil _ _ parts).elim
        | cons first rest =>
            rw [parts] at ih listed
            rcases List.mem_cons.mp listed with rfl | later
            · have clean : '\n' ∉ first := ih List.mem_cons_self
              simp only [List.mem_cons, not_or]
              exact ⟨fun same => other (by simp [← same]), clean⟩
            · exact ih (List.mem_cons_of_mem _ later)

/-- No locator in the tree holds a newline. -/
def LocatorsOnLine (tree : Node) : Prop :=
  ∀ depth node locator,
    tree.Lies depth node → node.locator = some locator → '\n' ∉ locator.toList

/-- It is enough to look at the nodes in pre-order. -/
theorem locatorsOnLine_iff {tree : Node}
    : tree.LocatorsOnLine
      ↔ ∀ entry ∈ tree.preorder 0, '\n' ∉ (entry.2.locator.getD "").toList := by
  constructor
  · rintro onLine ⟨depth, node⟩ listed
    obtain ⟨below, _, lies⟩ := mem_preorder_iff.mp listed
    cases found : node.locator with
    | none => simp
    | some locator => exact onLine below node locator lies found
  · intro clean depth node locator lies found
    have listed := mem_preorder_iff.mpr ⟨depth, (Nat.zero_add depth).symm, lies⟩
    simpa [found] using clean (depth, node) listed

instance (tree : Node) : Decidable tree.LocatorsOnLine :=
  decidable_of_iff _ locatorsOnLine_iff.symm

/-- The lines of a tree are whole exactly when no locator breaks its own. -/
theorem splitOn_outline_iff {tree : Node} (shaped : ∀ depth node, tree.Lies depth node → node.Shaped)
    : tree.outline.toList.splitOn '\n' = (tree.preorder 0).map line ++ [[]]
      ↔ tree.LocatorsOnLine := by
  have broken {entry : Nat × Node} (listed : entry ∈ tree.preorder 0)
      : '\n' ∉ line entry ↔ '\n' ∉ (entry.2.locator.getD "").toList := by
    obtain ⟨below, _, lies⟩ := mem_preorder_iff.mp listed
    rw [← List.count_eq_zero, ← List.count_eq_zero, ← (shaped below entry.2 lies).count_headline]
    simp [line, List.count_replicate]
  rw [locatorsOnLine_iff]
  constructor
  · intro whole entry listed
    have part : line entry ∈ tree.outline.toList.splitOn '\n' := by
      rw [whole]
      exact List.mem_append_left _ (List.mem_map_of_mem listed)
    exact (broken listed).mp (not_mem_of_mem_splitOn part)
  · intro clean
    have single : ∀ entry ∈ tree.preorder 0, (line entry).splitOn '\n' = [line entry] :=
      fun entry listed => List.splitOn_eq_singleton ((broken listed).mpr (clean entry listed))
    rw [splitOn_outline, List.flatMap_congr single, List.map_eq_flatMap]

end Node

/-- Every node of a tree that a source text is compiled to has the shape of its kind. -/
theorem shaped_of_compile {source : String} {options : Options} {sourceId : Nat}
    {compilation : Compilation} (compiled : compile source options sourceId = .ok compilation)
    : ∀ depth node, compilation.tree.Lies depth node → node.Shaped := by
  rw [compile] at compiled
  split at compiled
  · exact (Document.tree_wellFormed compiled).shaped
  · cases compiled

/-- The outline of a compiled tree is faithful line by line, but for the locators.  Its lines are those
of the nodes in pre-order, each indented by two blanks for each level of depth and started by its
kind, exactly when no locator of an image holds a newline; each newline of a locator adds a line.
-/
theorem compile_outline_lines {source : String} {options : Options} {sourceId : Nat}
    {compilation : Compilation} (compiled : compile source options sourceId = .ok compilation)
    : (compilation.tree.outline.toList.splitOn '\n'
          = (compilation.tree.preorder 0).map Node.line ++ [[]]
        ↔ compilation.tree.LocatorsOnLine)
      ∧ compilation.tree.outline.toList.count '\n'
        = ((compilation.tree.preorder 0).map fun entry =>
            (entry.2.locator.getD "").toList.count '\n' + 1).sum
      ∧ ∀ depth node,
          ((depth, node) ∈ compilation.tree.preorder 0 ↔ compilation.tree.Lies depth node)
          ∧ (Node.line (depth, node)).takeWhile (· == ' ') = List.replicate (2 * depth) ' '
          ∧ ((Node.line (depth, node)).dropWhile (· == ' ')).takeWhile (· != ' ')
            = node.kind.name.toList := by
  have shaped := shaped_of_compile compiled
  refine ⟨Node.splitOn_outline_iff shaped, ?_, fun depth node => ⟨?_, Node.line_indent depth node⟩⟩
  · rw [Node.count_outline]
    congr 1
    refine List.map_congr_left fun entry listed => ?_
    obtain ⟨below, _, lies⟩ := Node.mem_preorder_iff.mp listed
    have breaks := (shaped below entry.2 lies).count_headline
    simp [Node.line, List.count_replicate, breaks]
  · simp [Node.mem_preorder_iff]

/-- The text of a card with an image that has the key. -/
def keyedImage (key : String) : String :=
  Json.compact (.object
    [("elements", .array
      [.object [("alt", .string "a"), ("img_key", .string key), ("tag", .string "img")]])])

/-- The outline of a card with an image has a line for each of its three nodes.  Witness: evaluation of
the compilation and of the locators.
-/
theorem keyedImage_outline_lines
    : ∃ compilation,
        compile (keyedImage "k") {} 0 = .ok compilation
        ∧ compilation.tree.LocatorsOnLine
        ∧ compilation.tree.outline.toList.splitOn '\n'
          = (compilation.tree.preorder 0).map Node.line ++ [[]] := by
  have evaluated
      : ((compile (keyedImage "k") {} 0).toOption.map fun compilation =>
          decide compilation.tree.LocatorsOnLine) = some true := by
    decide +kernel
  obtain ⟨compilation, compiled, clean⟩ := ok_of_toOption_map evaluated
  have onLine := of_decide_eq_true clean
  exact ⟨compilation, compiled, onLine, (compile_outline_lines compiled).1.mpr onLine⟩

/-- With a newline in its key a card of three nodes has an outline of four lines. -/
theorem keyedImage_broken_line
    : ∃ compilation,
        compile (keyedImage "k\n  hr") {} 0 = .ok compilation
        ∧ (compilation.tree.preorder 0).length = 3
        ∧ (compilation.tree.outline.toList.splitOn '\n').length = 4 + 1
        ∧ compilation.tree.outline.toList.splitOn '\n'
          ≠ (compilation.tree.preorder 0).map Node.line ++ [[]] := by
  have evaluated
      : ((compile (keyedImage "k\n  hr") {} 0).toOption.map fun compilation =>
          ((compilation.tree.preorder 0).length,
            (compilation.tree.outline.toList.splitOn '\n').length)) = some (3, 5) := by
    decide +kernel
  obtain ⟨compilation, compiled, counts⟩ := ok_of_toOption_map evaluated
  obtain ⟨nodes, lines⟩ := Prod.mk.inj counts
  refine ⟨compilation, compiled, nodes, lines, fun same => ?_⟩
  have counted := congrArg List.length same
  rw [lines, List.length_append, List.length_map, nodes] at counted
  cases counted

end MessageCard
