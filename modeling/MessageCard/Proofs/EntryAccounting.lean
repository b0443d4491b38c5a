import MessageCard.Proofs.FirstViolation
import MessageCard.Proofs.VisitedEntries

/-! What a single entry reports about itself at the lenient level.  An entry that yields a node
reports nothing about itself, its children or its columns; one that yields none reports exactly
one thing.  Reports about the entries below are not counted here.
-/

namespace MessageCard

open Json

-----------------------------------------------------------------------------------------
-- Reports about an entry itself
-----------------------------------------------------------------------------------------

/-- Whether the place is that of the element, of a child of it or of a column of it. -/
def Path.concerns (path place : Path) : Bool :=
  place = path
  || match place.steps.getLast? with
    | some (.index position) =>
        place = (path.field "elements").item position
        || place = (path.field "columns").item position
    | _ => false

/-- A place concerns an element exactly when it is that of the element, of a child or of a
column.
-/
theorem Path.concerns_iff {path place : Path}
    : path.concerns place = true
      ↔ place = path
        ∨ (∃ child, place = (path.field "elements").item child)
        ∨ ∃ column, place = (path.field "columns").item column := by
  constructor
  · intro concerned
    rw [concerns, Bool.or_eq_true, decide_eq_true_iff] at concerned
    rcases concerned with same | inside
    · exact Or.inl same
    · split at inside
      · simp only [Bool.or_eq_true, decide_eq_true_eq] at inside
        exact Or.inr (inside.imp (⟨_, ·⟩) (⟨_, ·⟩))
      · cases inside
  · rintro (rfl | ⟨child, rfl⟩ | ⟨column, rfl⟩) <;> simp [concerns, item]

theorem Path.holds_of_concerns {path place : Path} (concerned : path.concerns place = true)
    : path.holds place = true := by
  rcases concerns_iff.mp concerned with rfl | ⟨child, rfl⟩ | ⟨column, rfl⟩
  · exact holds_self _
  · exact holds_of_field (holds_of_item (holds_self _))
  · exact holds_of_field (holds_of_item (holds_self _))

/-- The elements of a column do not concern the set around it; they lie too deep. -/
theorem Path.not_concerns_of_columnElements {path place : Path} {column : Nat}
    (inside : (path.columnElements column).holds place = true)
    : path.concerns place = false := by
  obtain ⟨rest, steps⟩ := holds_iff.mp inside
  rw [Bool.eq_false_iff, ne_eq, concerns_iff]
  have deep : path.steps.length + 3 ≤ place.steps.length := by
    simp only [steps, columnElements, field, item, List.length_append, List.length_cons,
      List.length_nil]
    omega
  rintro (rfl | ⟨child, rfl⟩ | ⟨other, rfl⟩)
  · omega
  · simp [field, item] at deep
  · simp [field, item] at deep

/-- Whether the report is about the element itself, a child of it or a column of it. -/
def Diagnostic.concerns (path : Path) (report : Diagnostic) : Bool :=
  report.path.any path.concerns

theorem Diagnostic.filter_concerns (path : Path) (reports : List Diagnostic)
    : (reports.filter (within path)).filter (concerns path) = reports.filter (concerns path) := by
  refine filter_narrow (fun report about => ?_) reports
  obtain ⟨place, found, concerned⟩ := (Option.any_eq_true _ _).mp about
  exact within_iff.mpr ⟨place, found, Path.holds_of_concerns concerned⟩

/-- The deferred tag of an entry, if it has one. -/
def Json.deferredTag? : Json → Option ElementTag
  | .object fields =>
      (((field? fields "tag").bind string?).bind ElementTag.ofName?).filter (·.isDeferred)
  | _ => none

/-- The report is the one that an entry without a node is due: the notice of its deferred tag at
its place, and a violation for any other entry.
-/
def Json.Justifies (setting : Setting) (path : Path) (entry : Json) (report : Diagnostic)
    : Prop :=
  match entry.deferredTag? with
  | some tag => report = .warning (.notImplemented tag.name) path setting.sourceId
  | none => report.isViolation = true

/-- An entry is read as deferred exactly by a deferred tag, by cases on how it is read. -/
theorem Element.ofJson_deferred_iff {entry : Json} {tag : ElementTag}
    : Element.ofJson entry = .deferred tag ↔ entry.deferredTag? = some tag := by
  constructor
  · intro same
    rcases Element.reading entry with
      ⟨_, _, read⟩ | ⟨_, _, _, _, _, read⟩ | ⟨fields, other, rfl, named, read⟩
    · cases read.symm.trans same
    · cases read.symm.trans same
    · obtain ⟨deferred, rfl⟩ := Element.ofTagged_deferred (read.symm.trans same)
      simp only [deferredTag?, named, Option.bind_some, string?, ElementTag.ofName?_name,
        Option.filter_some, deferred, if_true]
  · intro deferred
    cases entry with
    | object fields =>
        obtain ⟨known, isDeferred⟩ := Option.filter_eq_some_iff.mp deferred
        have named := elementTag_found_iff.mp known
        rw [Element.ofJson_of_tag named]
        cases tag with
        | actions => rfl
        | markdown => rfl
        | _ => cases isDeferred
    | _ => cases deferred

-----------------------------------------------------------------------------------------
-- Accounted traces
-----------------------------------------------------------------------------------------

/-- The selected reports account for how the trace ends: a result comes with none of them, and a
dropped part with exactly one, which it is due.
-/
structure Trace.Accounted {α : Type} (selected : Diagnostic → Bool)
    (due : Diagnostic → Prop) (trace : Trace α) : Prop where
  silent : ∀ result, trace.outcome = .done result → trace.recorded.filter selected = []
  reported
    : trace.outcome = .dropped
      → ∃ report, trace.recorded.filter selected = [report] ∧ due report

namespace Trace

variable {α β : Type} {selected : Diagnostic → Bool} {due : Diagnostic → Prop}

theorem Accounted.of_kept {trace : Trace α} (kept : trace.outcome ≠ .dropped)
    (silent : trace.recorded.filter selected = [])
    : trace.Accounted selected due :=
  ⟨fun _ _ => silent, fun ended => (kept ended).elim⟩

/-- A part dropped with one selected report is accounted for by it. -/
theorem Accounted.of_report {report : Diagnostic} (isSelected : selected report = true)
    (isDue : due report)
    : (dropped [report] : Trace α).Accounted selected due := by
  refine ⟨fun result ended => (by cases ended), fun _ => ⟨report, ?_, isDue⟩⟩
  simp [Trace.dropped, isSelected]

/-- A sequence is accounted for by its second part once the first is without selected reports;
by cases on the outcome of the first.
-/
theorem Accounted.andThen {trace : Trace α} {next : α → Trace β}
    (first : trace.Accounted selected due)
    (second : ∀ result, (next result).Accounted selected due)
    : (trace.andThen next).Accounted selected due := by
  cases ended : trace.outcome with
  | done result =>
      have same : (trace.andThen next).recorded.filter selected
          = (next result).recorded.filter selected := by
        rw [andThen_recorded next ended, List.filter_append, first.silent result ended,
          List.nil_append]
      constructor
      · intro last lastEnded
        rw [andThen_outcome next ended] at lastEnded
        rw [same]
        exact (second result).silent last lastEnded
      · intro lastEnded
        rw [andThen_outcome next ended] at lastEnded
        rw [same]
        exact (second result).reported lastEnded
  | dropped =>
      have stops : trace.andThen next = { recorded := trace.recorded, outcome := .dropped } := by
        simp only [Trace.andThen, ended]
      rw [stops]
      exact ⟨fun _ other => (by cases other), fun _ => first.reported ended⟩
  | aborted fatal =>
      have stops : trace.andThen next
          = { recorded := trace.recorded, outcome := .aborted fatal } := by
        simp only [Trace.andThen, ended]
      rw [stops]
      exact ⟨fun _ other => (by cases other), fun other => (by cases other)⟩

theorem Accounted.map {trace : Trace α} (accounted : trace.Accounted selected due)
    (f : α → β)
    : (trace.map f).Accounted selected due :=
  accounted.andThen fun _ => .of_kept (by simp [done]) rfl

/-- A traversal of items that are accounted for is accounted for itself: it stops at the first
item dropped.  By list induction.
-/
theorem inOrder_accounted {each : Nat → α → Trace β} {items : List α}
    (accounted : ∀ item ∈ items, ∀ position, (each position item).Accounted selected due)
    (index : Nat)
    : (inOrder each index items).Accounted selected due := by
  induction items generalizing index with
  | nil => exact .of_kept (by simp [inOrder, done]) rfl
  | cons item rest ih =>
      have later := ih (fun other member => accounted other (by simp [member])) (index + 1)
      exact (accounted item (by simp) index).andThen fun result => later.map (result :: ·)

end Trace

/-- A fault at the lenient level is accounted for by its report, if that is selected. -/
theorem Setting.fault_accounted {α : Type} {setting : Setting}
    (lenient : setting.options.level = .warning) {selected : Diagnostic → Bool}
    {due : Diagnostic → Prop} {fault : Fault} {place : Path}
    (isSelected
      : selected (.warning (.schemaViolation fault.message) place setting.sourceId) = true)
    (isDue : due (.warning (.schemaViolation fault.message) place setting.sourceId))
    : (setting.fault fault place : Trace α).Accounted selected due := by
  rw [Setting.fault_of_lenient lenient]
  exact .of_report isSelected isDue

/-- A child of a note is accounted for by reports at its place, by cases on how it was read. -/
theorem Child.compile_accounted {setting : Setting}
    (lenient : setting.options.level = .warning) {selected : Diagnostic → Bool} {place : Path}
    (isSelected : ∀ report : Diagnostic, report.path = some place → selected report = true)
    (child : Child)
    : (child.compile setting place).Accounted selected (·.isViolation = true) := by
  cases child with
  | faulty fault => exact Setting.fault_accounted lenient (isSelected _ rfl) rfl
  | unknown tag => exact .of_kept (by simp [Child.compile, Setting.abort, Trace.aborted]) rfl
  | _ => exact .of_kept (by simp [Child.compile, Trace.done]) rfl

/-- A column of a set is accounted for by reports about the set: its own fault is one, and what
its elements report is none.
-/
theorem Column.compile_accounted {setting : Setting}
    (lenient : setting.options.level = .warning) (path : Path) (level position : Nat)
    (column : Column)
    : (column.compile setting ((path.field "columns").item position) level).Accounted
        (Diagnostic.concerns path) (·.isViolation = true) := by
  cases column with
  | faulty fault =>
      refine Setting.fault_accounted lenient ?_ rfl
      exact Path.concerns_iff.mpr (Or.inr (Or.inr ⟨position, rfl⟩))
  | elements items =>
      refine .of_kept (Column.elements_not_dropped setting _ level items) ?_
      rw [List.filter_eq_nil_iff]
      intro report member concerned
      obtain ⟨place, found, inside⟩ :=
        (Column.elements_placed setting _ level items).place member
      rw [Diagnostic.concerns, found, Option.any_some,
        Path.not_concerns_of_columnElements inside] at concerned
      cases concerned

/-- An element is accounted for by the reports about it: the notice of a deferred tag, and a
violation otherwise.  Cases on how it was read.
-/
theorem Setting.entry_accounted {setting : Setting}
    (lenient : setting.options.level = .warning) (path : Path) (level : Nat) (entry : Json)
    : (setting.entry path level entry).Accounted (Diagnostic.concerns path)
        (entry.Justifies setting path) := by
  have own : path.concerns path = true := Path.concerns_iff.mpr (Or.inl rfl)
  have due (plain : ∀ tag, Element.ofJson entry ≠ .deferred tag)
      : entry.Justifies setting path = (·.isViolation = true) := by
    cases deferred : entry.deferredTag? with
    | none => funext report; simp only [Justifies, deferred]
    | some tag => exact (plain tag (Element.ofJson_deferred_iff.mpr deferred)).elim
  rw [Setting.entry]
  cases read : Element.ofJson entry with
  | deferred tag =>
      refine .of_report own ?_
      simp only [Justifies, Element.ofJson_deferred_iff.mp read]
  | faulty fault =>
      rw [due (by simp [read])]
      exact Setting.fault_accounted lenient own rfl
  | note children =>
      rw [due (by simp [read]), Element.compile, Child.compileAll_eq]
      refine Trace.Accounted.map (Trace.inOrder_accounted (fun child _ position => ?_) 0) _
      refine Child.compile_accounted lenient (fun report placed => ?_) child
      rw [Diagnostic.concerns, placed]
      exact Path.concerns_iff.mpr (Or.inr (Or.inl ⟨position, rfl⟩))
  | columnSet columns =>
      rw [due (by simp [read]), Element.compile, Column.compileAll_eq]
      exact Trace.Accounted.map (Trace.inOrder_accounted
        (fun column _ position => column.compile_accounted lenient path level position) 0) _
  | unknown tag =>
      exact .of_kept (by simp [Element.compile, Setting.abort, Trace.aborted]) rfl
  | div content => exact .of_kept (by simp [Element.compile, Trace.done]) rfl
  | hr => exact .of_kept (by simp [Element.compile, Trace.done]) rfl
  | img image compact width => exact .of_kept (by simp [Element.compile, Trace.done]) rfl

-----------------------------------------------------------------------------------------
-- Every report is about a visited entry
-----------------------------------------------------------------------------------------

/-- A child of a note reports about its own place only, by cases on how it was read. -/
theorem Child.path_of_recorded {setting : Setting} (lenient : setting.options.level = .warning)
    {place : Path} {child : Child} {report : Diagnostic}
    (member : report ∈ (child.compile setting place).recorded)
    : report.path = some place := by
  cases child with
  | faulty fault =>
      rw [Child.compile, Setting.fault_of_lenient lenient] at member
      rw [List.mem_singleton.mp member]
      rfl
  | _ => cases member

/-- An element that is no set reports about itself only, by cases on how it was read. -/
theorem Element.concerns_of_recorded {setting : Setting}
    (lenient : setting.options.level = .warning) {path : Path} {level : Nat}
    {element : Element} (single : ∀ columns, element ≠ .columnSet columns)
    {report : Diagnostic} (member : report ∈ (element.compile setting path level).recorded)
    : report.concerns path = true := by
  have own : path.concerns path = true := Path.concerns_iff.mpr (Or.inl rfl)
  cases element with
  | columnSet columns => exact (single columns rfl).elim
  | faulty fault =>
      rw [Element.compile, Setting.fault_of_lenient lenient] at member
      rw [List.mem_singleton.mp member]
      exact own
  | deferred tag =>
      rw [List.mem_singleton.mp member]
      exact own
  | note children =>
      rw [Element.compile, Trace.map_recorded, Child.compileAll_eq] at member
      obtain ⟨position, child, _, recorded, _⟩ := Trace.mem_inOrder_recorded member
      rw [Diagnostic.concerns, Child.path_of_recorded lenient recorded]
      exact Path.concerns_iff.mpr (Or.inr (Or.inl ⟨_, rfl⟩))
  | unknown tag => cases member
  | div content => cases member
  | hr => cases member
  | img image compact width => cases member

/-- What a column with elements reports is reported by its elements. -/
theorem Column.mem_recorded_of_elements {setting : Setting} {place : Path} {level : Nat}
    {elements : List Element} {report : Diagnostic}
    (member
      : report ∈ ((Column.elements elements).compile setting place level).recorded)
    : report
        ∈ (Element.compileAll setting (place.field "elements") (level + 1) 0
            elements).recorded := by
  cases elements with
  | nil =>
      simp only [Column.compile] at member
      cases member
  | cons first rest =>
      rw [Column.compile, Trace.map_recorded, atLevel] at member
      split at member
      · cases member
      · exact member

/-- What is reported in a visited entry is about a visited entry: about the entry itself, or, in a
set, about an entry of a column.  By recursion over the entry.
-/
theorem Document.Visited.concerned {document : Document} {setting : Setting}
    (lenient : setting.options.level = .warning) {path : Path} {level : Nat} {entry : Json}
    (visited : document.Visited path level entry) {report : Diagnostic}
    (member : report ∈ (setting.entry path level entry).recorded)
    : ∃ place deeper other,
        document.Visited place deeper other ∧ report.concerns place = true := by
  by_cases single : ∀ columns, Element.ofJson entry ≠ .columnSet columns
  · exact ⟨path, level, entry, visited, Element.concerns_of_recorded lenient single member⟩
  · simp only [ne_eq, not_forall, not_not] at single
    obtain ⟨_, set⟩ := single
    obtain ⟨fields, columns, shape, named, found, _⟩ := Element.ofJson_columnSet set
    obtain ⟨columnsListed, filled⟩ := arrayField?_eq_some_iff.mp found
    rw [shape] at visited
    rw [shape, Setting.entry_of_columns named columnsListed filled, Trace.map_recorded] at member
    obtain ⟨position, column, listed, recorded, reached⟩ := Trace.mem_inOrder_recorded member
    rw [Nat.zero_add] at recorded
    cases shaped : column.columnEntries? with
    | none =>
        obtain ⟨fault, faulty⟩ := Column.ofJson_of_misshaped shaped
        rw [faulty, Column.compile, Setting.fault_of_lenient lenient] at recorded
        refine ⟨path, level, _, visited, ?_⟩
        rw [List.mem_singleton.mp recorded]
        exact Path.concerns_iff.mpr (Or.inr (Or.inr ⟨position, rfl⟩))
    | some entries =>
        rw [Column.ofJson_of_entries shaped] at recorded
        have below := Column.mem_recorded_of_elements recorded
        rw [Element.compileAll_eq, Trace.map_recorded, Trace.inOrder_map_items] at below
        obtain ⟨index, inner, innerListed, own, _⟩ := Trace.mem_inOrder_recorded below
        rw [Trace.optional_recorded, Nat.zero_add] at own
        -- all columns before this one came to nodes, so none of them is misshaped
        have visitedInner : document.Visited ((path.columnElements position).item index)
            (level + 1) inner := by
          refine .column visited named columnsListed ?_ ?_ innerListed
          · intro earlier before other otherListed
            obtain ⟨node, ended⟩ := reached earlier before other otherListed
            exact Column.shaped_of_done ended
          · rw [listed, Option.bind_some, shaped]
        have smaller : sizeOf inner < sizeOf entry := by
          rw [shape]
          exact Nat.lt_trans (sizeOf_lt_of_entry shaped (List.mem_of_getElem? innerListed))
            (sizeOf_lt_of_item columnsListed (List.mem_of_getElem? listed))
        exact Document.Visited.concerned lenient visitedInner own
termination_by sizeOf entry

end MessageCard
