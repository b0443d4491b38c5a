import MessageCard.Proofs.EntryAccounting

/-! The account of a whole compilation at the lenient level.  Every visited entry either yields
its node, which stands in the tree, or is the subject of exactly one report; every other report
is about the header or the body as a whole; and the reports are in the order of the document.
-/

namespace MessageCard

open Json

-----------------------------------------------------------------------------------------
-- What entries yield
-----------------------------------------------------------------------------------------

/-- The node that the entry yields where it stands, if it yields one. -/
def Setting.yield? (setting : Setting) (path : Path) (level : Nat) (entry : Json)
    : Option Node :=
  (setting.entry path level entry).result?

/-- The nodes that the entries of a list yield, in order. -/
def Setting.yields (setting : Setting) (path : Path) (level : Nat) (entries : List Json)
    : List Node :=
  (entries.mapIdx fun position entry =>
    setting.yield? (path.item position) level entry).reduceOption

/-- The warnings account for the entry: either it yields a node and no warning is about it, or it
yields none and exactly one warning is, the one that it is due.
-/
def Setting.AccountsFor (setting : Setting) (warnings : List Diagnostic) (path : Path)
    (level : Nat) (entry : Json)
    : Prop :=
  (∃ node,
      setting.yield? path level entry = some node
      ∧ warnings.filter (Diagnostic.concerns path) = [])
  ∨ (setting.yield? path level entry = none
      ∧ ∃ report,
          warnings.filter (Diagnostic.concerns path) = [report]
          ∧ entry.Justifies setting path report)

/-- The account of a compilation: all visited entries with their nodes, the two sections, and the
order of the warnings.
-/
structure Document.Accounting (document : Document) (options : Options)
    (compilation : Compilation) : Prop where
  entries
    : ∀ path level entry,
        document.Visited path level entry
        → (document.setting options).AccountsFor compilation.warnings path level entry
  body
    : (compilation.tree.child .elementsContainer).map Node.children
      = some ((document.setting options).yields Path.body 1
          ((document.elements.bind array?).getD []))
  sets
    : ∀ path level fields columns node,
        document.Visited path level (.object fields)
        → field? fields "tag" = some (.string ElementTag.columnSet.name)
        → arrayField? fields "columns" = some columns
        → (document.setting options).yield? path level (.object fields) = some node
        → node.children.map Node.children
          = columns.mapIdx fun position column =>
              (document.setting options).yields (path.columnElements position) (level + 1)
                column.entriesOf
  headerReports
    : compilation.warnings.countP (·.path = some Path.header)
      = if document.header.isSome && (compilation.tree.child .header).isNone then 1 else 0
  bodyReports
    : compilation.warnings.countP (·.path = some Path.body)
      = if (document.elements.bind array?).isNone then 1 else 0
  others
    : ∀ report ∈ compilation.warnings,
        report.path = some Path.header
        ∨ report.path = some Path.body
        ∨ ∃ path level entry,
            document.Visited path level entry ∧ report.concerns path = true
  ordered : compilation.warnings.Pairwise Diagnostic.Before

/-- The nodes of a list of entries that comes to a result are those that the entries yield. -/
theorem yields_of_done {setting : Setting} {path : Path} {level : Nat} {entries : List Json}
    {nodes : List Node}
    (ended
      : ((Trace.inOrder
            (fun position entry =>
              (setting.entry (path.item position) level entry).optional)
            0 entries).map
          List.reduceOption).outcome
        = .done nodes)
    : nodes = setting.yields path level entries := by
  obtain ⟨parts, collected, rfl⟩ := Trace.map_done_iff.mp ended
  have yielded := Trace.inOrder_results (f := id)
    (g := fun position entry => setting.yield? (path.item position) level entry)
    (fun position entry part done => Trace.result?_of_optional done) collected
  simp only [List.map_id, Nat.zero_add] at yielded
  rw [Setting.yields, yielded]

/-- A set that yields a node yields one column for each of its columns, with the nodes that the
entries of the column yield.
-/
theorem yields_of_set {setting : Setting} {path : Path} {level : Nat} {fields : Fields}
    {columns : List Json} {node : Node}
    (named : field? fields "tag" = some (.string ElementTag.columnSet.name))
    (listed : arrayField? fields "columns" = some columns)
    (yielded : setting.yield? path level (.object fields) = some node)
    : node.children.map Node.children
      = columns.mapIdx fun position column =>
          setting.yields (path.columnElements position) (level + 1) column.entriesOf := by
  obtain ⟨columnsListed, filled⟩ := arrayField?_eq_some_iff.mp listed
  have ended := Trace.result?_eq_some_iff.mp yielded
  rw [Setting.entry_of_columns named columnsListed filled] at ended
  obtain ⟨nodes, collected, rfl⟩ := Trace.map_done_iff.mp ended
  have columnNodes := Trace.inOrder_results (f := Node.children)
    (g := fun position column =>
      setting.yields (path.columnElements position) (level + 1) column.entriesOf)
    (fun position column result columnEnded => by
      obtain ⟨entries, shaped⟩ := Column.shaped_of_done columnEnded
      rw [Column.compile_of_entries shaped (Trace.runs_of_done columnEnded)] at columnEnded
      obtain ⟨inner, innerEnded, rfl⟩ := Trace.map_done_iff.mp columnEnded
      rw [entriesOf, shaped, Option.getD_some]
      exact yields_of_done innerEnded) collected
  simp only [Nat.zero_add] at columnNodes
  exact columnNodes

-----------------------------------------------------------------------------------------
-- The sections
-----------------------------------------------------------------------------------------

/-- No report is about a value that lies outside the place of the trace. -/
theorem countP_of_placed {α : Type} {path other : Path} {trace : Trace α}
    (placed : trace.Placed path) (apart : path.holds other = false)
    : trace.recorded.countP (·.path = some other) = 0 := by
  rw [List.countP_eq_zero]
  intro report member about
  obtain ⟨place, found, inside⟩ := placed.place member
  rw [decide_eq_true_iff, found] at about
  rw [Option.some.inj about, apart] at inside
  cases inside

/-- A given header without a node is the subject of one report, any other header of none; cases
on how it was read.
-/
theorem Header.countP_recorded {setting : Setting} (lenient : setting.options.level = .warning)
    {header : Option Header} {node : Option Node}
    (ended : (Header.compileOptional setting header).outcome = .done node)
    : (Header.compileOptional setting header).recorded.countP (·.path = some Path.header)
      = if header.isSome && node.isNone then 1 else 0 := by
  rcases header with _ | (fault | ⟨template, title⟩)
  · rfl
  · rw [Header.compileOptional, Header.compile, Setting.fault_of_lenient lenient] at ended ⊢
    cases ended
    rfl
  · cases ended
    rfl

/-- The node of a header is of that kind, by cases on how the header was read. -/
theorem Header.kind_of_compileOptional {setting : Setting}
    {header : Option Header} {node : Option Node}
    (ended : (Header.compileOptional setting header).outcome = .done node)
    : ∀ shown, node = some shown → shown.kind = .header := by
  rintro shown rfl
  rcases header with _ | (fault | ⟨template, title⟩)
  · cases ended
  · have dropped := Trace.optional_some_iff.mp ended
    rw [Header.compile, Setting.fault] at dropped
    split at dropped <;> cases dropped
  · cases ended
    rfl

theorem Header.path_of_recorded {setting : Setting} (lenient : setting.options.level = .warning)
    {header : Option Header} {report : Diagnostic}
    (member : report ∈ (Header.compileOptional setting header).recorded)
    : report.path = some Path.header := by
  rcases header with _ | (fault | ⟨template, title⟩)
  · cases member
  · rw [Header.compileOptional, Header.compile, Setting.fault_of_lenient lenient] at member
    rw [List.mem_singleton.mp member]
    rfl
  · cases member

/-- A faulty body reports its fault and nothing else. -/
theorem Body.recorded_of_faulty {setting : Setting} (lenient : setting.options.level = .warning)
    (fault : Fault)
    : ((Body.faulty fault).compile setting).recorded
      = [.warning (.schemaViolation fault.message) Path.body setting.sourceId] := by
  rw [Body.compile, Body.check, Setting.fault_of_lenient lenient,
    @Trace.andThen_recorded _ _ _ none _ rfl, Body.items, atLevel_nil_recorded]
  rfl

/-- What an array of elements reports as the body is reported by one of its entries. -/
theorem Body.mem_recorded_of_array {setting : Setting} {entries : List Json}
    {report : Diagnostic}
    (member : report ∈ ((Body.ofJson (some (.array entries))).compile setting).recorded)
    : ∃ position entry,
        entries[position]? = some entry
        ∧ report ∈ (setting.entry (Path.body.item position) 1 entry).recorded := by
  rw [Body.compile_of_array, atLevel] at member
  split at member
  · cases member
  · rw [Element.compileAll_eq, Trace.map_recorded, Trace.inOrder_map_items] at member
    obtain ⟨position, entry, listed, own, _⟩ := Trace.mem_inOrder_recorded member
    rw [Trace.optional_recorded, Nat.zero_add] at own
    exact ⟨position, entry, listed, own⟩

/-- A faulty body is the subject of one report, an array of elements of none: what its elements
report is about places in them.
-/
theorem Body.countP_recorded {setting : Setting} (lenient : setting.options.level = .warning)
    (elements : Option Json)
    : ((Body.ofJson elements).compile setting).recorded.countP (·.path = some Path.body)
      = if (elements.bind array?).isNone then 1 else 0 := by
  cases found : elements.bind array? with
  | none =>
      obtain ⟨fault, faulty⟩ := Body.ofJson_of_not_array found
      rw [faulty, Body.recorded_of_faulty lenient]
      rfl
  | some entries =>
      obtain rfl := array_of_bind found
      refine List.countP_eq_zero.mpr fun report member about => ?_
      obtain ⟨position, entry, _, own⟩ := Body.mem_recorded_of_array member
      obtain ⟨place, placed, inside⟩ := (Element.compile_placed setting _ 1 _).place own
      rw [decide_eq_true_iff, placed] at about
      rw [Option.some.inj about, Path.item_not_holds] at inside
      cases inside

theorem Body.yields_of_done {setting : Setting} {elements : Option Json} {nodes : List Node}
    (ended : ((Body.ofJson elements).compile setting).outcome = .done nodes)
    : nodes = setting.yields Path.body 1 ((elements.bind array?).getD []) := by
  have below := (Body.compileAll_of_done ended).2
  rw [Element.compileAll_eq, Trace.inOrder_map_items] at below
  exact MessageCard.yields_of_done below

/-- The header of a card is the child of that kind, and the container of the body is the other
child.
-/
theorem Node.card_child {header : Option Node}
    (kind : ∀ shown, header = some shown → shown.kind = .header) (nodes : List Node)
    : (Node.card header nodes).child .header = header
      ∧ ((Node.card header nodes).child .elementsContainer).map Node.children = some nodes := by
  cases header with
  | none => exact ⟨rfl, rfl⟩
  | some shown =>
      have isHeader := kind shown rfl
      simp [Node.card, Node.child, Node.children, Node.withChildren, Node.new, isHeader]

-----------------------------------------------------------------------------------------
-- The account of a compilation
-----------------------------------------------------------------------------------------

/-- The warnings of a compilation account for every visited entry: they are those of the entry's
own compilation where they concern it.
-/
theorem Document.Visited.accountsFor {document : Document} {options : Options}
    (lenient : options.level = .warning) (runs : (document.trace options).Runs) {path : Path}
    {level : Nat} {entry : Json} (visited : document.Visited path level entry)
    : (document.setting options).AccountsFor (document.trace options).recorded path level
        entry := by
  obtain ⟨own, ownRuns⟩ := visited.reports_within runs
  have accounted
      : ((document.setting options).entry path level entry).Accounted
          (Diagnostic.concerns path) (entry.Justifies (document.setting options) path) :=
    Setting.entry_accounted lenient path level entry
  have same : (document.trace options).recorded.filter (Diagnostic.concerns path)
      = ((document.setting options).entry path level entry).recorded.filter
          (Diagnostic.concerns path) := by
    rw [← own, Diagnostic.filter_concerns]
  rw [Setting.AccountsFor, same]
  cases ended : ((document.setting options).entry path level entry).outcome with
  | done node =>
      exact Or.inl ⟨node, Trace.result?_eq_some_iff.mpr ended, accounted.silent node ended⟩
  | dropped =>
      refine Or.inr ⟨?_, accounted.reported ended⟩
      simp only [Setting.yield?, Trace.result?, ended]
  | aborted fatal => exact (ownRuns fatal ended).elim

/-- In a run to the end, every report is about the header, about the body or about a visited entry.
-/
theorem Document.mem_trace_recorded {document : Document} {options : Options}
    (lenient : options.level = .warning) (runs : (document.trace options).Runs)
    {report : Diagnostic} (member : report ∈ (document.trace options).recorded)
    : report.path = some Path.header
      ∨ report.path = some Path.body
      ∨ ∃ path level entry,
          document.Visited path level entry ∧ report.concerns path = true := by
  have same : (document.setting options).options.level = .warning := lenient
  rw [(Document.trace_of_runs runs).2.2] at member
  rcases List.mem_append.mp member with ofHeader | ofBody
  · exact Or.inl (Header.path_of_recorded same ofHeader)
  · have read : (Card.ofDocument document).body = Body.ofJson document.elements := rfl
    cases found : document.elements.bind array? with
    | none =>
        obtain ⟨fault, faulty⟩ := Body.ofJson_of_not_array found
        rw [read, faulty, Body.recorded_of_faulty same] at ofBody
        rw [List.mem_singleton.mp ofBody]
        exact Or.inr (Or.inl rfl)
    | some entries =>
        have listed := array_of_bind found
        rw [read, listed] at ofBody
        obtain ⟨position, entry, at_position, own⟩ := Body.mem_recorded_of_array ofBody
        exact Or.inr (Or.inr (Document.Visited.concerned same (.top listed at_position) own))

/-- At the lenient level every compilation that succeeds is accounted for: nothing is dropped
silently, and nothing is reported twice.
-/
theorem Document.compile_accounting {document : Document} {options : Options}
    {compilation : Compilation} (lenient : options.level = .warning)
    (compiled : document.compile options = .ok compilation)
    : document.Accounting options compilation := by
  have same : (document.setting options).options.level = .warning := lenient
  obtain ⟨tree, recorded⟩ := compile_ok_iff_trace.mp compiled
  have runs := Trace.runs_of_done tree
  obtain ⟨header, nodes, headed, below, built, warnings⟩ := compile_ok_iff.mp compiled
  have headerPlaced := Header.compileOptional_placed (document.setting options)
    (Card.ofDocument document).header
  have bodyPlaced := (Card.ofDocument document).body.compile_placed (document.setting options)
  obtain ⟨shown, container⟩ := Node.card_child (Header.kind_of_compileOptional headed) nodes
  constructor
  case entries =>
    intro path level entry visited
    rw [← recorded]
    exact visited.accountsFor lenient runs
  case body => rw [built, container, Body.yields_of_done below]
  case sets =>
    intro path level fields columns node _ named listed yielded
    exact yields_of_set named listed yielded
  case headerReports =>
    have given : (Card.ofDocument document).header.isSome = document.header.isSome :=
      Option.isSome_map
    rw [warnings, List.countP_append, Header.countP_recorded same headed,
      countP_of_placed bodyPlaced (by decide), built, shown, given, Nat.add_zero]
  case bodyReports =>
    rw [warnings, List.countP_append, countP_of_placed headerPlaced (by decide), Nat.zero_add]
    exact Body.countP_recorded same document.elements
  case others =>
    intro report member
    rw [← recorded] at member
    exact Document.mem_trace_recorded lenient runs member
  case ordered =>
    rw [← recorded]
    exact document.trace_ordered options

/-- A card that loses its header, a deferred element, a set with a misshaped column after one
with a faulty element, and a note with a faulty child; a rule is kept.
-/
def Document.lossy : Document where
  config := none
  header := some (.object [("title", .object [("tag", .string "lark_md")])])
  elements := some (.array
    [.object [("tag", .string "actions")],
      .object
        [("tag", .string "column_set"),
          ("columns", .array
            [.object
                [("elements", .array
                  [.object [("tag", .string "hr")], .object [("tag", .string "div")]])],
              .string "column"])],
      .object [("tag", .string "hr")],
      .object [("tag", .string "note"), ("elements", .array [.null])]])
  sourceId := 0

/-- The lossy card is compiled with five warnings, which are accounted for.  Witness:
evaluation of its compilation.
-/
theorem Document.lossy_accounting
    : ∃ compilation,
        Document.lossy.compile { level := .warning, locale := none, maxDepth := 2 }
          = .ok compilation
        ∧ compilation.warnings.length = 5
        ∧ Document.lossy.Accounting { level := .warning, locale := none, maxDepth := 2 }
            compilation :=
  ⟨_, rfl, rfl, Document.compile_accounting rfl rfl⟩

end MessageCard
