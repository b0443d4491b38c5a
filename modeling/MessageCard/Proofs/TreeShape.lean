import MessageCard.Proofs.GrammarReading
import MessageCard.Proofs.NodeGrammar
import MessageCard.Proofs.VisitedEntries

/-! Every tree that is built is well formed.  What an entry of a document comes to has the shape of
its kind and fits where it stands, whatever the level of validation: the checks that readings make
are those that the shapes ask for.
-/

namespace MessageCard

open Json

variable {setting : Setting} {path : Path}

-----------------------------------------------------------------------------------------
-- Children of notes
-----------------------------------------------------------------------------------------

theorem readNumeric_isFinite {text : List Char} {number : Double}
    (found : readNumeric text = some number)
    : number.isFinite = true := by
  grind [readNumeric]

/-- A numeric value is finite: numbers are checked, and numeric text is read as a finite number. -/
theorem numeric?_isFinite {value : Json} {number : Double}
    (found : value.numeric? = some number)
    : number.isFinite = true := by
  cases value with
  | number stored =>
      rw [numeric?, Option.ite_none_right_eq_some] at found
      exact Option.some.inj found.2 ▸ found.1
  | string text => exact readNumeric_isFinite found
  | _ => cases found

theorem Child.content_shaped {tag : ChildTag} {fields : Fields} {make : String → Child}
    {inlines : String → List Run} {node : Node}
    (built
      : ∀ content,
          (make content).compile setting path
            = .done (.embeddedText content (inlines content)))
    (parsed : ∀ content, inlines content = [] ∨ inlines content = Run.ofMarkdown content)
    (ended : ((Child.content tag fields make).compile setting path).outcome = .done node)
    : node.kind.isEmbedded = true ∧ node.Shaped ∧ node.children = [] := by
  cases found : stringField? fields "content" with
  | none =>
      rw [Child.content, found] at ended
      exact (Setting.fault_not_done ended).elim
  | some content =>
      rw [Child.content, found] at ended
      simp only [built] at ended
      cases ended
      exact ⟨rfl, .embeddedText (stringField?_eq_some_iff.mp found).2 (parsed content), rfl⟩

/-- What a child of a note comes to is shaped as one and holds nothing further; cases on how the
child is read.
-/
theorem Child.compile_shaped {child : Json} {node : Node}
    (ended : ((Child.ofJson child).compile setting path).outcome = .done node)
    : node.kind.isEmbedded = true ∧ node.Shaped ∧ node.children = [] := by
  rcases Child.reading child with
    ⟨_, read⟩ | ⟨_, _, _, read⟩ | ⟨fields, tag, rfl, named, read⟩
  · rw [read] at ended
    exact (Setting.fault_not_done ended).elim
  · rw [read] at ended
    cases ended
  · rw [read] at ended
    cases tag with
    | plainText =>
        exact Child.content_shaped (fun _ => rfl) (fun _ => Or.inl rfl) ended
    | larkMd =>
        exact Child.content_shaped (fun _ => rfl) (fun _ => Or.inr rfl) ended
    | img =>
        rcases imageOfFields_cases fields with ⟨has, image⟩ | ⟨_, fault, refused⟩
        · rw [Child.ofTagged, image] at ended
          cases ended
          exact ⟨rfl, .embeddedImg (textOf_ne_empty has.1), rfl⟩
        · rw [Child.ofTagged, refused] at ended
          exact (Setting.fault_not_done ended).elim

-----------------------------------------------------------------------------------------
-- Elements and columns
-----------------------------------------------------------------------------------------

/-- What a `div` comes to carries text. -/
theorem Element.div_shaped {fields : Fields} {level : Nat} {node : Node}
    (ended : ((Element.divOfFields fields).compile setting path level).outcome = .done node)
    : node.kind = .div ∧ node.Shaped ∧ node.children = [] := by
  rcases divOfFields_cases fields with ⟨⟨text, listed, _, content⟩, read⟩ | ⟨_, fault, faulty⟩
  · rw [read] at ended
    cases ended
    have inner : fieldsOf fields "text" = text := by
      rw [fieldsOf, objectField?_eq_some_iff.mpr listed, Option.getD_some]
    exact ⟨rfl, .div (inner ▸ textOf_ne_empty content), rfl⟩
  · rw [faulty] at ended
    exact (Setting.fault_not_done ended).elim

/-- What an `img` comes to has a key, and a width within the bounds if it has one. -/
theorem Element.img_shaped {fields : Fields} {level : Nat} {node : Node}
    (ended : ((Element.imgOfFields fields).compile setting path level).outcome = .done node)
    : node.kind = .img ∧ node.Shaped ∧ node.children = [] := by
  rcases imgOfFields_cases fields with ⟨⟨has, _⟩, read⟩ | ⟨_, fault, faulty⟩
  · rw [read] at ended
    have bounded (number : Double)
        (given
          : (((truthyField? fields "custom_width").bind numeric?).map ImageSize.clampWidth)
            = some number)
        : number.isFinite = true ∧ 278 ≤ number.value ∧ number.value ≤ 580 := by
      obtain ⟨width, numeric, rfl⟩ := Option.map_eq_some_iff.mp given
      obtain ⟨value, _, found⟩ := Option.bind_eq_some_iff.mp numeric
      exact ImageSize.clampWidth_value_mem (numeric?_isFinite found)
    have named := textOf_ne_empty has.1
    cases compact : (truthyField? fields "compact_width").isSome with
    | false =>
        rw [compact] at ended
        cases ended
        exact ⟨rfl, @Node.Shaped.img _ _ false _ named bounded, rfl⟩
    | true =>
        rw [compact] at ended
        cases ended
        exact ⟨rfl, @Node.Shaped.img _ _ true _ named bounded, rfl⟩
  · rw [faulty] at ended
    exact (Setting.fault_not_done ended).elim

/-- What a `note` comes to has children, which fit one step deeper. -/
theorem Element.note_fits {fields : Fields} {level limit depth : Nat} {node : Node}
    (within : depth + 1 ≤ limit)
    (ended : ((Element.noteOfFields fields).compile setting path level).outcome = .done node)
    : node.kind = .note ∧ node.Fits limit depth := by
  cases listed : arrayField? fields "elements" with
  | none =>
      rw [Element.noteOfFields, listed] at ended
      exact (Setting.fault_not_done ended).elim
  | some children =>
      rw [Element.noteOfFields, listed] at ended
      simp only [Element.compile, Child.compileAll_eq, Trace.inOrder_map_items] at ended
      obtain ⟨nodes, built, rfl⟩ := Trace.map_done_iff.mp ended
      have each (child : Node) (member : child ∈ nodes)
          : child.kind.isEmbedded = true ∧ child.Shaped ∧ child.children = [] := by
        obtain ⟨_, _, _, childEnded⟩ := Trace.mem_of_inOrder_done built member
        exact Child.compile_shaped childEnded
      have filled : nodes ≠ [] := by
        rw [← List.length_pos_iff, Trace.inOrder_length built, List.length_pos_iff]
        exact (arrayField?_eq_some_iff.mp listed).2
      refine ⟨rfl, .of_children (.note filled fun child member => (each child member).1)
        (by omega) ?_⟩
      intro child member
      obtain ⟨_, shaped, leaf⟩ := each child member
      exact .of_leaf shaped within leaf

/-- The entry is built to fit on a level: an element of the body stands two steps below the element
that it is nested in.
-/
def Setting.BuildsFitting (setting : Setting) (level : Nat) (entry : Json) : Prop :=
  ∀ path node,
    level ≤ setting.options.maxDepth
    → (setting.entry path level entry).outcome = .done node
    → node.kind.isElement = true ∧ node.Fits (2 * setting.options.maxDepth + 1) (2 * level)

/-- The nodes of a list of entries are elements that fit when the entries are built to fit. -/
theorem Setting.entries_fit {level : Nat} {entries : List Json} {nodes : List Node}
    (each : ∀ entry ∈ entries, setting.BuildsFitting level entry)
    (within : entries ≠ [] → level ≤ setting.options.maxDepth)
    (ended
      : ((Trace.inOrder
            (fun position entry =>
              (setting.entry (path.item position) level entry).optional)
            0 entries).map
          List.reduceOption).outcome
        = .done nodes)
    : ∀ node ∈ nodes,
        node.kind.isElement = true
        ∧ node.Fits (2 * setting.options.maxDepth + 1) (2 * level) := by
  intro node member
  obtain ⟨parts, built, rfl⟩ := Trace.map_done_iff.mp ended
  obtain ⟨_, entry, listed, entryEnded⟩ :=
    Trace.mem_of_inOrder_done built (List.reduceOption_mem_iff.mp member)
  exact each entry listed _ node (within (List.ne_nil_of_mem listed))
    (Trace.optional_some_iff.mp entryEnded)

/-- What a column comes to is a column whose elements fit one step deeper. -/
theorem Column.compile_fits {level : Nat} {column : Json} {node : Node}
    (each
      : ∀ entries,
          column.columnEntries? = some entries
          → ∀ entry ∈ entries, setting.BuildsFitting (level + 1) entry)
    (within : level ≤ setting.options.maxDepth)
    (ended : ((Column.ofJson column).compile setting path level).outcome = .done node)
    : node.kind = .column
      ∧ node.Fits (2 * setting.options.maxDepth + 1) (2 * level + 1) := by
  cases shape : column.columnEntries? with
  | none =>
      obtain ⟨fault, faulty⟩ := Column.ofJson_of_misshaped shape
      rw [faulty] at ended
      exact (Setting.fault_not_done ended).elim
  | some entries =>
      have runs := Trace.runs_of_done ended
      rw [Column.compile_of_entries shape runs] at ended
      obtain ⟨nodes, built, rfl⟩ := Trace.map_done_iff.mp ended
      rw [Column.ofJson_of_entries shape] at runs
      have fit := Setting.entries_fit (each entries shape)
        (fun occupied => Column.within_of_runs runs (by simpa using occupied)) built
      exact ⟨rfl, .of_children (.column fun inner member => (fit inner member).1) (by omega)
        fun inner member => (fit inner member).2⟩

/-- Every entry is built to fit.  By recursion over the entry: cases on how it is read, and for a
set the entries of its columns, one level deeper.
-/
theorem Setting.entry_fits (level : Nat) (entry : Json) : setting.BuildsFitting level entry := by
  intro path node within ended
  rw [Setting.entry] at ended
  rcases Element.reading entry with
    ⟨_, _, read⟩ | ⟨_, _, _, _, _, read⟩ | ⟨fields, tag, shape, named, read⟩
  · rw [read] at ended
    exact (Setting.fault_not_done ended).elim
  · rw [read] at ended
    cases ended
  · rw [read] at ended
    cases tag with
    | actions => cases ended
    | markdown => cases ended
    | hr =>
        cases ended
        exact ⟨rfl, .of_leaf .hr (by omega) rfl⟩
    | div =>
        obtain ⟨kind, shaped, leaf⟩ := Element.div_shaped ended
        exact ⟨by rw [kind]; rfl, .of_leaf shaped (by omega) leaf⟩
    | img =>
        obtain ⟨kind, shaped, leaf⟩ := Element.img_shaped ended
        exact ⟨by rw [kind]; rfl, .of_leaf shaped (by omega) leaf⟩
    | note =>
        have inside : 2 * level + 1 ≤ 2 * setting.options.maxDepth + 1 := by omega
        obtain ⟨kind, fits⟩ := Element.note_fits inside ended
        exact ⟨by rw [kind]; rfl, fits⟩
    | columnSet =>
        cases set : arrayField? fields "columns" with
        | none =>
            rw [Element.ofTagged, set] at ended
            exact (Setting.fault_not_done ended).elim
        | some columns =>
            obtain ⟨listed, filled⟩ := arrayField?_eq_some_iff.mp set
            rw [← read, shape, ← Setting.entry, Setting.entry_of_columns named listed filled]
              at ended
            obtain ⟨nodes, built, rfl⟩ := Trace.map_done_iff.mp ended
            have each (inner : Node) (member : inner ∈ nodes)
                : inner.kind = .column
                  ∧ inner.Fits (2 * setting.options.maxDepth + 1) (2 * level + 1) := by
              obtain ⟨_, column, columnListed, columnEnded⟩ :=
                Trace.mem_of_inOrder_done built member
              refine Column.compile_fits (fun entries shaped other inside => ?_) within
                columnEnded
              have smaller : sizeOf other < sizeOf entry := by
                rw [shape]
                exact Nat.lt_trans (sizeOf_lt_of_entry shaped inside)
                  (sizeOf_lt_of_item listed columnListed)
              exact Setting.entry_fits (level + 1) other
            have occupied : nodes ≠ [] := by
              rw [← List.length_pos_iff, Trace.inOrder_length built, List.length_pos_iff]
              exact filled
            exact ⟨rfl, .of_children
              (.columnSet occupied fun inner member => (each inner member).1) (by omega)
              fun inner member => (each inner member).2⟩
termination_by sizeOf entry

-----------------------------------------------------------------------------------------
-- Documents
-----------------------------------------------------------------------------------------

/-- The node of a header has the shape of one and holds nothing further. -/
theorem Header.compileOptional_shaped {header : Option Header} {node : Node}
    (ended : (Header.compileOptional setting header).outcome = .done (some node))
    : node.kind = .header ∧ node.Shaped ∧ node.children = [] := by
  rcases header with _ | (fault | ⟨template, title⟩)
  · cases ended
  · exact (Setting.fault_not_done (Trace.optional_some_iff.mp ended)).elim
  · cases ended
    exact ⟨rfl, .header, rfl⟩

/-- The elements of a body that comes to a result fit two steps below the root. -/
theorem Body.compile_fits {elements : Option Json} {nodes : List Node}
    (ended : ((Body.ofJson elements).compile setting).outcome = .done nodes)
    : 1 ≤ setting.options.maxDepth
      ∧ ∀ node ∈ nodes,
          node.kind.isElement = true ∧ node.Fits (2 * setting.options.maxDepth + 1) 2 := by
  obtain ⟨within, below⟩ := Body.compileAll_of_done ended
  rw [Element.compileAll_eq, Trace.inOrder_map_items] at below
  exact ⟨within, Setting.entries_fit (fun entry _ => Setting.entry_fits 1 entry)
    (fun _ => within) below⟩

/-- A document that is compiled, at whatever level, comes to a well-formed tree. -/
theorem Document.tree_wellFormed {document : Document} {options : Options}
    {compilation : Compilation} (compiled : document.compile options = .ok compilation)
    : compilation.tree.WellFormed options.maxDepth := by
  obtain ⟨header, nodes, headed, below, tree, _⟩ := compile_ok_iff.mp compiled
  obtain ⟨within, elements⟩ := Body.compile_fits below
  have positive : 1 ≤ options.maxDepth := within
  have container
      : ((Node.new .elementsContainer [Style.elements]).withChildren nodes).Fits
          (2 * options.maxDepth + 1) 1 :=
    .of_children (.elementsContainer fun node member => (elements node member).1) (by omega)
      fun node member => (elements node member).2
  have root : compilation.tree.Fits (2 * options.maxDepth + 1) 0 := by
    rw [tree]
    refine .of_children (.root ?headed rfl) (by omega) ?each
    case headed =>
      rintro node rfl
      exact (Header.compileOptional_shaped headed).1
    case each =>
      intro child member
      rcases List.mem_append.mp member with ofHeader | ofBody
      · obtain rfl := Option.mem_toList.mp ofHeader
        obtain ⟨_, shaped, leaf⟩ := Header.compileOptional_shaped headed
        exact .of_leaf shaped (by omega) leaf
      · rw [List.mem_singleton.mp ofBody]
        exact container
  constructor
  case root => rw [tree]; rfl
  case shaped => exact fun depth node lies => (root depth node lies).1
  case compact =>
    exact fun depth node lies image => (root depth node lies).1.hasClass_compact image
  case bounded =>
    intro depth node lies
    have := (root depth node lies).2
    omega

/-- Every tree that a source text is compiled to is well formed, with any options. -/
theorem compile_wellFormed {source : String} {options : Options} {sourceId : Nat}
    {compilation : Compilation}
    (compiled : compile source options sourceId = .ok compilation)
    : compilation.tree.WellFormed options.maxDepth := by
  rw [compile] at compiled
  split at compiled
  · exact Document.tree_wellFormed compiled
  · cases compiled

/-- The node that positions among children lead to. -/
def Node.below? (node : Node) : List Nat → Option Node
  | [] => some node
  | position :: rest => node.children[position]?.bind fun child => child.below? rest

theorem Node.Lies.of_below? {tree node : Node} {positions : List Nat}
    (found : tree.below? positions = some node)
    : tree.Lies positions.length node := by
  induction positions generalizing tree with
  | nil => exact Option.some.inj found ▸ .root
  | cons position rest ih =>
      obtain ⟨child, listed, below⟩ := Option.bind_eq_some_iff.mp found
      exact .of_child (List.mem_of_getElem? listed) (ih below)

/-- The text of a card with an image that is too wide, in a column of a set, and with an empty column
in a set behind it.
-/
def illustratedCard : String :=
  Json.compact (.object
    [("elements", .array
      [.object
        [("tag", .string "column_set"),
          ("columns", .array
            [.object
              [("elements", .array
                [.object
                  [("tag", .string "img"), ("img_key", .string "k"), ("alt", .string "a"),
                    ("custom_width", .number (.integer 1000))],
                  .object
                    [("tag", .string "column_set"),
                      ("columns", .array [.object []])]])]])]])])

/-- The illustrated card is compiled silently to a tree that is well formed for two levels.  Its
image has the greatest width, at the depth of elements on the second level, and its empty column is
as deep as a node can be.  Witness: evaluation of its compilation.
-/
theorem illustratedCard_wellFormed
    : ∃ compilation,
        compile illustratedCard { maxDepth := 2 } 0 = .ok compilation
        ∧ compilation.warnings = []
        ∧ compilation.tree.WellFormed 2
        ∧ (∃ image,
            compilation.tree.Lies 4 image
            ∧ image.kind = .img
            ∧ image.attrs.customWidth = some (Double.ofNat 580))
        ∧ ∃ column, compilation.tree.Lies (2 * 2 + 1) column ∧ column.kind = .column := by
  have evaluated
      : (compile illustratedCard { maxDepth := 2 } 0).toOption.map
            (fun compilation =>
              (compilation.warnings,
                (compilation.tree.below? [0, 0, 0, 0]).map
                  fun image => (image.kind, image.attrs.customWidth),
                (compilation.tree.below? [0, 0, 0, 1, 0]).map Node.kind))
          = some ([], some (.img, some (Double.ofNat 580)), some .column) := by
    decide +kernel
  obtain ⟨compilation, compiled, computed⟩ := ok_of_toOption_map evaluated
  obtain ⟨silent, ofImage, ofColumn⟩ := by simpa only [Prod.mk.injEq] using computed
  obtain ⟨image, imageAt, shown⟩ := Option.map_eq_some_iff.mp ofImage
  obtain ⟨column, columnAt, kind⟩ := Option.map_eq_some_iff.mp ofColumn
  obtain ⟨isImage, width⟩ := Prod.mk.inj shown
  exact ⟨compilation, compiled, silent, compile_wellFormed compiled,
    ⟨image, .of_below? imageAt, isImage, width⟩, column, .of_below? columnAt, kind⟩

end MessageCard
