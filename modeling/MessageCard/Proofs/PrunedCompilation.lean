import MessageCard.Proofs.Pruning

/-! What is left of a pruned document compiles silently.  Every entry that came to a node comes to
the same node after pruning, wherever it then stands and at every level of validation, since all
that was dropped around it is gone.
-/

namespace MessageCard

open Json

variable {setting other : Setting} {path : Path} {level : Nat}

-----------------------------------------------------------------------------------------
-- Compiling what is left
-----------------------------------------------------------------------------------------

/-- The settings show texts alike and have one limit of nesting; their levels may differ. -/
structure Setting.Alike (left right : Setting) : Prop where
  locale : left.options.locale = right.options.locale
  maxDepth : left.options.maxDepth = right.options.maxDepth

theorem Setting.Alike.display_eq (alike : setting.Alike other)
    : setting.display = other.display := by
  funext text
  simp only [Setting.display, alike.locale]

/-- A child that comes to a node comes to it silently, wherever it stands and at every level;
cases on how it was read.
-/
theorem Child.compile_of_done (alike : setting.Alike other) {child : Child} {node : Node}
    (ended : (child.compile setting path).outcome = .done node) (place : Path)
    : child.compile other place = .done node := by
  cases child with
  | faulty fault => exact (Setting.fault_not_done ended).elim
  | unknown tag => cases ended
  | plain content =>
      cases ended
      rfl
  | markdown content =>
      cases ended
      rfl
  | image shown preview =>
      cases ended
      simp only [Child.compile, Node.embeddedImage, alike.display_eq]

/-- Children that come to nodes come to them silently, by list induction. -/
theorem Child.compileAll_of_done (alike : setting.Alike other) {index : Nat}
    {children : List Child} {nodes : List Node}
    (ended : (Child.compileAll setting path index children).outcome = .done nodes)
    (place : Path) (position : Nat)
    : Child.compileAll other place position children = .done nodes := by
  induction children generalizing index position nodes with
  | nil =>
      cases ended
      rfl
  | cons child rest ih =>
      obtain ⟨node, first, later⟩ := Trace.andThen_done_iff.mp ended
      obtain ⟨others, below, rfl⟩ := Trace.map_done_iff.mp later
      rw [Child.compileAll, child.compile_of_done alike first, ih below]
      rfl

/-- An element that is no set comes to its node silently, wherever it stands and at every level;
cases on how it was read.
-/
theorem Element.compile_of_done (alike : setting.Alike other) {element : Element} {node : Node}
    (single : ∀ columns, element ≠ .columnSet columns)
    (ended : (element.compile setting path level).outcome = .done node) (place : Path)
    : element.compile other place level = .done node := by
  cases element with
  | columnSet columns => exact (single columns rfl).elim
  | faulty fault => exact (Setting.fault_not_done ended).elim
  | unknown tag => cases ended
  | deferred tag => cases ended
  | div content =>
      cases ended
      rfl
  | hr =>
      cases ended
      rfl
  | img image compact width =>
      cases ended
      simp only [Element.compile, Node.image, alike.display_eq]
  | note children =>
      rw [Element.compile] at ended ⊢
      obtain ⟨nodes, below, rfl⟩ := Trace.map_done_iff.mp ended
      rw [Child.compileAll_of_done alike below]
      rfl

/-- An entry that comes to a node and is read as no set is not changed by pruning; cases on how it
is read.
-/
theorem pruneEntry_of_single {entry : Json} {node : Node}
    (single : ∀ columns, Element.ofJson entry ≠ .columnSet columns)
    (ended : (setting.entry path level entry).outcome = .done node)
    : setting.pruneEntry path level entry = entry := by
  rw [Setting.entry] at ended
  rcases Element.reading entry with
    ⟨_, _, read⟩ | ⟨_, _, _, _, _, read⟩ | ⟨fields, tag, rfl, named, read⟩
  · rw [read] at ended
    exact (Setting.fault_not_done ended).elim
  · rw [read] at ended
    cases ended
  · refine pruneEntry_of_tag ?_ named
    rintro rfl
    rw [read, Element.ofTagged] at ended
    split at ended
    · rename_i columns found
      exact single _ (by rw [read, Element.ofTagged, found])
    · exact Setting.fault_not_done ended

mutual

/-- A pruned entry comes silently to the node that the entry came to, wherever it stands and at
every level.  Mutual recursion along the pruning: an entry, its columns, a column, its entries.
-/
theorem Setting.entry_pruned (alike : setting.Alike other) {path : Path} {level : Nat}
    {entry : Json} {node : Node}
    (ended : (setting.entry path level entry).outcome = .done node) (place : Path)
    : other.entry place level (setting.pruneEntry path level entry) = .done node := by
  by_cases single : ∀ columns, Element.ofJson entry ≠ .columnSet columns
  · rw [pruneEntry_of_single single ended]
    exact Element.compile_of_done alike single ended place
  · simp only [ne_eq, not_forall, not_not] at single
    obtain ⟨_, set⟩ := single
    obtain ⟨fields, columns, shape, named, found, _⟩ := Element.ofJson_columnSet set
    obtain ⟨listed, filled⟩ := arrayField?_eq_some_iff.mp found
    subst shape
    rw [Setting.entry_of_columns named listed filled] at ended
    obtain ⟨nodes, below, rfl⟩ := Trace.map_done_iff.mp ended
    -- the pruned entry is a set again: its tag stays, and none of its columns is taken out
    have stillNamed : field? (setField "columns"
          (.array (setting.pruneColumns (path.field "columns") level 0 columns)) fields) "tag"
        = some (.string ElementTag.columnSet.name) := by
      rw [field?_setField_of_ne (by decide), named]
    have stillListed : field? (setField "columns"
          (.array (setting.pruneColumns (path.field "columns") level 0 columns)) fields) "columns"
        = some (.array (setting.pruneColumns (path.field "columns") level 0 columns)) := by
      rw [field?_setField_self, listed, Option.map_some]
    have stillFilled : setting.pruneColumns (path.field "columns") level 0 columns ≠ [] := by
      cases columns with
      | nil => exact (filled rfl).elim
      | cons column rest => simp [Setting.pruneColumns]
    rw [pruneEntry_of_columns named listed,
      Setting.entry_of_columns stillNamed stillListed stillFilled]
    have smaller : sizeOf columns < sizeOf (Json.object fields) := sizeOf_lt_of_items listed
    rw [Setting.columns_pruned alike below]
    rfl
termination_by sizeOf entry

theorem Setting.columns_pruned (alike : setting.Alike other) {path : Path} {level index : Nat}
    {columns : List Json} {nodes : List Node}
    (ended
      : (Trace.inOrder
            (fun position column =>
              (Column.ofJson column).compile setting (path.item position) level)
            index columns).outcome
        = .done nodes)
    (place : Path) (position : Nat)
    : Trace.inOrder
          (fun position column =>
            (Column.ofJson column).compile other (place.item position) level)
          position (setting.pruneColumns path level index columns)
      = .done nodes := by
  cases columns with
  | nil =>
      rw [Setting.pruneColumns]
      cases ended
      rfl
  | cons column rest =>
      obtain ⟨node, first, later⟩ := Trace.andThen_done_iff.mp ended
      obtain ⟨others, below, rfl⟩ := Trace.map_done_iff.mp later
      rw [Setting.pruneColumns, Trace.inOrder, Setting.column_pruned alike first,
        Trace.done_andThen, Setting.columns_pruned alike below, Trace.done_map]
termination_by sizeOf columns

theorem Setting.column_pruned (alike : setting.Alike other) {path : Path} {level : Nat}
    {column : Json} {node : Node}
    (ended : ((Column.ofJson column).compile setting path level).outcome = .done node)
    (place : Path)
    : (Column.ofJson (setting.pruneColumn path level column)).compile other place level
      = .done node := by
  cases shaped : column.columnEntries? with
  | none =>
      obtain ⟨fault, faulty⟩ := Column.ofJson_of_misshaped shaped
      rw [faulty] at ended
      exact (Setting.fault_not_done ended).elim
  | some entries =>
      have smaller : sizeOf entries < sizeOf column := sizeOf_lt_of_entries shaped
      have runs := Trace.runs_of_done ended
      rw [Column.ofJson_of_entries shaped] at ended runs
      have within := Column.within_of_runs runs
      rw [Column.compile_elements within] at ended
      obtain ⟨nodes, below, rfl⟩ := Trace.map_done_iff.mp ended
      -- a column may lose all of its entries, but gains none, so it stays within the limit
      have stillWithin
          : (setting.pruneEntries (path.field "elements") (level + 1) 0 entries).map
                Element.ofJson ≠ []
            → level + 1 ≤ other.options.maxDepth := by
        intro occupied
        rw [← alike.maxDepth]
        refine within ?_
        rintro none
        obtain rfl := List.map_eq_nil_iff.mp none
        exact occupied (by rw [Setting.pruneEntries, List.map_nil])
      rw [Column.ofJson_of_entries (columnEntries?_pruneColumn shaped),
        Column.compile_elements stillWithin, Setting.entries_pruned alike below, Trace.done_map]
termination_by sizeOf column

/-- Pruned entries come silently to the nodes that the entries came to. -/
theorem Setting.entries_pruned (alike : setting.Alike other) {path : Path} {level index : Nat}
    {entries : List Json} {nodes : List Node}
    (ended
      : (Element.compileAll setting path level index (entries.map Element.ofJson)).outcome
        = .done nodes)
    (place : Path) (position : Nat)
    : Element.compileAll other place level position
          ((setting.pruneEntries path level index entries).map Element.ofJson)
      = .done nodes := by
  cases entries with
  | nil =>
      rw [Setting.pruneEntries]
      simp only [List.map_nil, Element.compileAll] at ended ⊢
      cases ended
      rfl
  | cons entry rest =>
      rw [List.map_cons, Element.compileAll] at ended
      obtain ⟨part, first, later⟩ := Trace.andThen_done_iff.mp ended
      obtain ⟨others, below, rfl⟩ := Trace.map_done_iff.mp later
      have yielded : setting.yield? (path.item index) level entry = part :=
        (Trace.result?_of_optional first).symm
      cases part with
      | none =>
          -- the entry is taken out, so that the rest moves up to its position
          rw [Setting.pruneEntries, yielded]
          exact Setting.entries_pruned alike below place position
      | some node =>
          have kept := Setting.entry_pruned alike (Trace.optional_some_iff.mp first)
            (place.item position)
          rw [Setting.entry] at kept
          rw [Setting.pruneEntries, yielded, List.map_cons, Element.compileAll, kept,
            Setting.entries_pruned alike below]
          rfl
termination_by sizeOf entries

end

-----------------------------------------------------------------------------------------
-- Pruned documents
-----------------------------------------------------------------------------------------

/-- The header that is kept comes silently to the node that the header came to, if any. -/
theorem Header.compileOptional_pruned (alike : setting.Alike other) {header : Option Json}
    {node : Option Node}
    (ended
      : (Header.compileOptional setting (header.map Header.ofJson)).outcome = .done node)
    : Header.compileOptional other
          ((header.filter fun value =>
              ((Header.ofJson value).compile setting).result?.isSome).map Header.ofJson)
      = .done node := by
  cases header with
  | none =>
      cases ended
      rfl
  | some value =>
      have shown := Trace.result?_of_optional ended
      cases read : Header.ofJson value with
      | faulty fault =>
          have lost : ((Header.ofJson value).compile setting).result? = none := by
            rw [read]
            cases found : ((Header.faulty fault).compile setting).result? with
            | none => rfl
            | some result =>
                exact (Setting.fault_not_done (Trace.result?_eq_some_iff.mp found)).elim
          rw [Option.filter_some, lost, shown, lost]
          rfl
      | titled template title =>
          have kept : ((Header.ofJson value).compile setting).result?
              = some (.header template (other.display title)) := by
            rw [read, Header.compile, alike.display_eq]
            rfl
          rw [Option.filter_some, kept, shown, kept, Option.isSome_some, if_pos rfl,
            Option.map_some, read]
          rfl

/-- The pruned body comes silently to the nodes that the body came to. -/
theorem Body.compile_pruned (alike : setting.Alike other) {elements : Option Json}
    {nodes : List Node}
    (ended : ((Body.ofJson elements).compile setting).outcome = .done nodes)
    : (Body.ofJson (some (.array (setting.pruneEntries Path.body 1 0
          ((elements.bind array?).getD []))))).compile other
      = .done nodes := by
  obtain ⟨within, below⟩ := Body.compileAll_of_done ended
  rw [Body.compile_of_array, atLevel_of_le (alike.maxDepth ▸ within)]
  exact Setting.entries_pruned alike below Path.body 0

/-- A compilation that succeeds, whatever its level, has the same tree as that of its pruned
document at any level, which reports nothing.  In particular the tree of the lenient level is that
of the pruned document at the strict level.
-/
theorem Document.compile_prune {document : Document} {options : Options}
    {compilation : Compilation} (compiled : document.compile options = .ok compilation)
    (level : Level)
    : (document.prune options).compile { options with level }
      = .ok { tree := compilation.tree, warnings := [] } := by
  obtain ⟨header, nodes, headed, below, tree, _⟩ := compile_ok_iff.mp compiled
  have alike : (document.setting options).Alike
      ((document.prune options).setting { options with level }) := ⟨rfl, rfl⟩
  have headerSilent := Header.compileOptional_pruned alike headed
  have bodySilent := Body.compile_pruned alike below
  refine compile_ok_iff.mpr ⟨header, nodes, ?_, ?_, tree, ?_⟩
  · exact congrArg Trace.outcome headerSilent
  · exact congrArg Trace.outcome bodySilent
  · exact (congrArg₂ (· ++ ·) (congrArg Trace.recorded headerSilent)
      (congrArg Trace.recorded bodySilent)).symm

/-- A card with a faulty header, a deferred element, and a set of which one column is left empty
when its only element is dropped.
-/
def Document.patchy : Document where
  config := none
  header := some (.string "header")
  elements := some (.array
    [.object [("tag", .string "markdown")],
      .object
        [("tag", .string "column_set"),
          ("columns", .array
            [.object [("elements", .array [.object [("tag", .string "img")]])],
              .object [("elements", .array [.null, .object [("tag", .string "hr")]])]])]])
  sourceId := 0

/-- The patchy card is compiled with four warnings, and its pruned document to the same tree
without any.  Witness: evaluation of its compilation.
-/
theorem Document.patchy_prune
    : ∃ compilation,
        Document.patchy.compile { level := .warning, locale := none, maxDepth := 2 }
          = .ok compilation
        ∧ compilation.warnings.length = 4
        ∧ (Document.patchy.prune { level := .warning, locale := none, maxDepth := 2 }).compile
              { level := .error, locale := none, maxDepth := 2 }
            = .ok { tree := compilation.tree, warnings := [] } :=
  ⟨_, rfl, rfl, Document.compile_prune rfl .error⟩

end MessageCard
