import MessageCard.Proofs.DocumentOrder
import MessageCard.Proofs.DocumentRun

/-! Where reports lie.  Whatever is reported while a part of the card is compiled lies in that
part, and reports are recorded in the order of the document.  Both hold at every level and are
carried by one invariant of traces.
-/

namespace MessageCard

-----------------------------------------------------------------------------------------
-- Traces with reports in place
-----------------------------------------------------------------------------------------

namespace Trace

variable {α β : Type}

/-- The reports of the trace lie where the path leads, in the order of the document. -/
structure Placed (path : Path) (trace : Trace α) : Prop where
  within : ∀ report ∈ trace.recorded, report.within path = true
  ordered : trace.recorded.Pairwise Diagnostic.Before

/-- Every report of a trace in place is about a place that the path holds. -/
theorem Placed.place {path : Path} {trace : Trace α} (placed : trace.Placed path)
    {report : Diagnostic} (member : report ∈ trace.recorded)
    : ∃ place, report.path = some place ∧ path.holds place = true :=
  Diagnostic.within_iff.mp (placed.within report member)

theorem Placed.of_nil {path : Path} {trace : Trace α} (silent : trace.recorded = [])
    : trace.Placed path :=
  ⟨by simp [silent], by simp [silent]⟩

theorem Placed.of_single {path : Path} {trace : Trace α} {report : Diagnostic}
    (single : trace.recorded = [report]) (placed : report.path = some path)
    : trace.Placed path := by
  refine ⟨fun other member => ?_, by simp [single]⟩
  obtain rfl : other = report := by simpa [single] using member
  exact Diagnostic.within_iff.mpr ⟨path, placed, path.holds_self⟩

theorem Placed.map {path : Path} {trace : Trace α} (placed : trace.Placed path) (f : α → β)
    : (trace.map f).Placed path :=
  ⟨by simpa using placed.within, by simpa using placed.ordered⟩

theorem Placed.optional {path : Path} {trace : Trace α} (placed : trace.Placed path)
    : trace.optional.Placed path :=
  ⟨by simpa using placed.within, by simpa using placed.ordered⟩

theorem Placed.of_field {path : Path} {name : String} {trace : Trace α}
    (placed : trace.Placed (path.field name))
    : trace.Placed path := by
  refine ⟨fun report member => ?_, placed.ordered⟩
  obtain ⟨place, found, inside⟩ := placed.place member
  exact Diagnostic.within_iff.mpr ⟨place, found, Path.holds_of_field inside⟩

/-- A traversal has its reports in place when every item has.  The parts of one item come before
those of a later one.
-/
theorem inOrder_placed {path : Path} {each : Nat → α → Trace β} {items : List α}
    (placed : ∀ item ∈ items, ∀ position, (each position item).Placed (path.item position))
    (index : Nat)
    : (inOrder each index items).Placed path := by
  constructor
  · intro report member
    obtain ⟨position, item, listed, own, _⟩ := mem_inOrder_recorded member
    obtain ⟨place, found, inside⟩ := (placed item (List.mem_of_getElem? listed) _).place own
    exact Diagnostic.within_iff.mpr ⟨place, found, Path.holds_of_item inside⟩
  · refine inOrder_pairwise (fun item member position => (placed item member position).ordered)
      ?_ index
    intro item member other listed position later lower first own second others
    obtain ⟨place, found, inside⟩ := (placed item member position).place own
    obtain ⟨laterPlace, laterFound, laterInside⟩ := (placed other listed later).place others
    exact ⟨place, laterPlace, found, laterFound,
      Path.before_of_items lower inside laterInside⟩

/-- In a traversal that runs to its end, the reports within an item that is reached are those of
the item.
-/
theorem inOrder_within (path : Path) {each : Nat → α → Trace β}
    (placed : ∀ position item, (each position item).Placed (path.item position))
    {items : List α} (runs : (inOrder each 0 items).Runs) {position : Nat} {item : α}
    (listed : items[position]? = some item)
    (reached
      : ∀ earlier < position, ∀ other,
          items[earlier]? = some other → (each earlier other).outcome ≠ .dropped)
    : (inOrder each 0 items).recorded.filter (Diagnostic.within (path.item position))
        = (each position item).recorded
      ∧ (each position item).Runs := by
  have own (place : Nat) (other : α) (report : Diagnostic)
      (member : report ∈ (each place other).recorded) (another : Nat)
      : report.within (path.item another) = decide (another = place) :=
    Diagnostic.within_item_eq ((placed place other).within report member) another
  simpa only [Nat.zero_add] using inOrder_filter own runs listed
    (by simpa only [Nat.zero_add] using reached)

end Trace

-----------------------------------------------------------------------------------------
-- Compilations have their reports in place
-----------------------------------------------------------------------------------------

/-- At the lenient level a fault drops the part around it, with one report about its place. -/
theorem Setting.fault_of_lenient {α : Type} {setting : Setting}
    (lenient : setting.options.level = .warning) (fault : Fault) (path : Path)
    : (setting.fault fault path : Trace α)
      = .dropped [.warning (.schemaViolation fault.message) path setting.sourceId] := by
  simp only [Setting.fault, lenient, Level.verdict]

/-- What is reported about a fault is about its place, by cases on the level. -/
theorem Setting.fault_placed {α : Type} (setting : Setting) (fault : Fault) (path : Path)
    : (setting.fault fault path : Trace α).Placed path := by
  cases level : setting.options.level with
  | off => exact .of_nil (by simp [Setting.fault, level, Level.verdict, Trace.dropped])
  | warning =>
      rw [Setting.fault_of_lenient level]
      exact .of_single rfl rfl
  | error => exact .of_nil (by simp [Setting.fault, level, Level.verdict, Trace.aborted])

theorem Child.compile_placed (setting : Setting) (path : Path) (child : Child)
    : (child.compile setting path).Placed path := by
  cases child with
  | faulty fault => exact setting.fault_placed fault path
  | _ => exact .of_nil rfl

/-- A level has its reports in place: one too deep has none. -/
theorem atLevel_placed {α : Type} {setting : Setting} {path : Path} {trace : Trace α}
    (placed : trace.Placed path) (level : Nat)
    : (atLevel setting path level trace).Placed path := by
  rw [atLevel]
  split
  · exact .of_nil rfl
  · exact placed

mutual

/-- An element has its reports in place; mutual induction with the elements of its columns. -/
theorem Element.compile_placed (setting : Setting) (path : Path) (level : Nat)
    (element : Element)
    : (element.compile setting path level).Placed path := by
  cases element with
  | faulty fault => exact setting.fault_placed fault path
  | unknown tag => exact .of_nil rfl
  | deferred tag => exact .of_single rfl rfl
  | div content => exact .of_nil rfl
  | hr => exact .of_nil rfl
  | img image compact width => exact .of_nil rfl
  | note children =>
      simp only [Element.compile, Child.compileAll_eq]
      exact .of_field ((Trace.inOrder_placed
        (fun child _ position => child.compile_placed setting _) 0).map _)
  | columnSet columns =>
      have placed (column : Column) (member : column ∈ columns) (place : Path)
          : (column.compile setting place level).Placed place := by
        cases column with
        | faulty fault => exact setting.fault_placed fault place
        | elements items => exact .of_field (Column.elements_placed setting place level items)
      simp only [Element.compile, Column.compileAll_eq]
      exact .of_field ((Trace.inOrder_placed
        (fun column member position => placed column member _) 0).map _)
termination_by sizeOf element
decreasing_by
  have := List.sizeOf_lt_of_mem member
  simp only [Element.columnSet.sizeOf_spec, Column.elements.sizeOf_spec] at this ⊢
  omega

/-- A column with elements has its reports in place, among its elements. -/
theorem Column.elements_placed (setting : Setting) (path : Path) (level : Nat)
    (elements : List Element)
    : ((Column.elements elements).compile setting path level).Placed
        (path.field "elements") := by
  cases elements with
  | nil => exact .of_nil (by simp only [Column.compile, Trace.done])
  | cons first rest =>
      rw [Column.compile, Element.compileAll_eq]
      exact (atLevel_placed ((Trace.inOrder_placed
        (fun element member position =>
          (Element.compile_placed setting _ (level + 1) element).optional) 0).map _)
        (level + 1)).map _
termination_by sizeOf elements
decreasing_by exact List.sizeOf_lt_of_mem member

end

theorem Column.compile_placed (setting : Setting) (path : Path) (level : Nat)
    (column : Column)
    : (column.compile setting path level).Placed path := by
  cases column with
  | faulty fault => exact setting.fault_placed fault path
  | elements items => exact .of_field (Column.elements_placed setting path level items)

theorem Element.compileAll_placed (setting : Setting) (path : Path) (level index : Nat)
    (elements : List Element)
    : (Element.compileAll setting path level index elements).Placed path := by
  rw [Element.compileAll_eq]
  exact (Trace.inOrder_placed
    (fun element _ position => (element.compile_placed setting _ level).optional) index).map _

/-- A level without elements reports nothing. -/
theorem atLevel_nil_recorded (setting : Setting) (path : Path) (level : Nat)
    : (atLevel setting path level
        (Element.compileAll setting path level 0 [])).recorded = [] := by
  rw [atLevel]
  split <;> simp [Setting.abort, Trace.aborted, Element.compileAll, Trace.done]

/-- A body has its reports in place: either its own fault is reported, or its elements are. -/
theorem Body.compile_placed (setting : Setting) (body : Body)
    : (body.compile setting).Placed Path.body := by
  cases body with
  | elements items =>
      simp only [Body.compile, Body.check, Trace.done_andThen, Body.items]
      exact atLevel_placed (Element.compileAll_placed setting Path.body 1 0 items) 1
  | faulty fault =>
      have checked : ((setting.fault fault Path.body : Trace Unit).optional).Placed Path.body :=
        (setting.fault_placed fault Path.body).optional
      -- a faulty body counts as empty, and nothing is reported after its fault
      simp only [Body.compile, Body.check, Body.items]
      rcases Trace.andThen_recorded_cases
          ((setting.fault fault Path.body : Trace Unit).optional)
          (fun _ => atLevel setting Path.body 1
            (Element.compileAll setting Path.body 1 0 [])) with same | ⟨_, same⟩
      · exact ⟨same ▸ checked.within, same ▸ checked.ordered⟩
      · rw [atLevel_nil_recorded, List.append_nil] at same
        exact ⟨same ▸ checked.within, same ▸ checked.ordered⟩

/-- A header has its reports in place, whether it is there or not. -/
theorem Header.compileOptional_placed (setting : Setting) (header : Option Header)
    : (Header.compileOptional setting header).Placed Path.header := by
  rcases header with _ | (fault | ⟨template, title⟩)
  · exact .of_nil rfl
  · exact (setting.fault_placed fault Path.header).optional
  · exact .of_nil rfl

/-- The reports of a compilation are in the order of the document at every level: what is said of
the header comes before what is said of the body.
-/
theorem Document.trace_ordered (document : Document) (options : Options)
    : (document.trace options).recorded.Pairwise Diagnostic.Before := by
  have header := Header.compileOptional_placed (document.setting options)
    (Card.ofDocument document).header
  have body := (Card.ofDocument document).body.compile_placed (document.setting options)
  rcases Trace.andThen_recorded_cases
      (Header.compileOptional (document.setting options) (Card.ofDocument document).header)
      (fun node =>
        ((Card.ofDocument document).body.compile (document.setting options)).map
          (Node.card node)) with same | ⟨_, same⟩
  · rw [Document.trace, Card.compile, same]
    exact header.ordered
  · rw [Document.trace, Card.compile, same, Trace.map_recorded, List.pairwise_append]
    refine ⟨header.ordered, body.ordered, fun first early second late => ?_⟩
    obtain ⟨place, found, inside⟩ := header.place early
    obtain ⟨later, laterFound, laterInside⟩ := body.place late
    exact ⟨place, later, found, laterFound, Path.before_of_sections inside laterInside⟩

end MessageCard
