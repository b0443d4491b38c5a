import MessageCard.Proofs.FirstViolation
import MessageCard.Proofs.StrictAcceptance
import MessageCard.Proofs.ValuePlaces

/-! What reports are about.  Every report has a path that leads to a value of the document, and the
value is what the cause of the report says of it.  One invariant of traces carries this through a
compilation, at every level of validation and for fatal reports as for others.
-/

namespace MessageCard

open Json

-----------------------------------------------------------------------------------------
-- Traces and their reports
-----------------------------------------------------------------------------------------

namespace Trace

variable {α β : Type}

/-- All reports of the trace, the fatal one included, have a path, and their causes hold there. -/
def Reports (Holds : Cause → Path → Prop) (trace : Trace α) : Prop :=
  ∀ report ∈ trace.reports, ∃ path, report.path = some path ∧ Holds report.cause path

variable {Holds : Cause → Path → Prop}

theorem Reports.of_done (result : α) : (done result).Reports Holds := by
  intro report member
  cases member

/-- A sequence reports what its first part reports and what the second does when it is reached. -/
theorem Reports.andThen {trace : Trace α} {next : α → Trace β} (first : trace.Reports Holds)
    (second : ∀ result, (next result).Reports Holds)
    : (trace.andThen next).Reports Holds := by
  rcases trace with ⟨recorded, outcome⟩
  cases outcome with
  | done result =>
      intro report member
      rw [Trace.andThen, after_reports] at member
      rcases List.mem_append.mp member with own | later
      · exact first report own
      · exact second result report later
  | dropped => exact first
  | aborted fatal => exact first

theorem Reports.map {trace : Trace α} (holds : trace.Reports Holds) (f : α → β)
    : (trace.map f).Reports Holds :=
  holds.andThen (fun result => .of_done (f result))

theorem Reports.optional {trace : Trace α} (holds : trace.Reports Holds)
    : trace.optional.Reports Holds := by
  rcases trace with ⟨recorded, outcome⟩
  cases outcome <;> exact holds

/-- A traversal reports what its items report where they stand, by list induction. -/
theorem inOrder_reports {each : Nat → α → Trace β} {items : List α} {index : Nat}
    (holds
      : ∀ position item,
          items[position]? = some item → (each (index + position) item).Reports Holds)
    : (inOrder each index items).Reports Holds := by
  induction items generalizing index with
  | nil => exact .of_done []
  | cons item rest ih =>
      have first := holds 0 item rfl
      have later := @ih (index + 1) fun position other listed => by
        have there := holds (position + 1) other listed
        rwa [Nat.add_comm position, ← Nat.add_assoc] at there
      exact first.andThen (fun result => later.map (result :: ·))

end Trace

section

variable {Holds : Cause → Path → Prop} {setting : Setting} {path : Path} {α : Type}

/-- A fault is reported at its place if at all, by cases on the level. -/
theorem Setting.fault_reports {fault : Fault} (holds : Holds (.schemaViolation fault.message) path)
    : (setting.fault fault path : Trace α).Reports Holds := by
  intro report member
  rw [Setting.fault] at member
  cases level : setting.options.level with
  | off => simp [level, Level.verdict, Trace.dropped, Trace.reports] at member
  | warning =>
      simp only [level, Level.verdict, Trace.dropped, Trace.reports, List.mem_singleton] at member
      exact ⟨path, member ▸ rfl, member ▸ holds⟩
  | error =>
      simp only [level, Level.verdict, Trace.aborted, Trace.reports, List.nil_append,
        List.mem_singleton] at member
      exact ⟨path, member ▸ rfl, member ▸ holds⟩

theorem Setting.abort_reports {cause : Cause} (holds : Holds cause path)
    : (setting.abort cause path : Trace α).Reports Holds := by
  intro report member
  obtain rfl := List.mem_singleton.mp member
  exact ⟨path, rfl, holds⟩

theorem Setting.defer_reports {tag : ElementTag} (holds : Holds (.notImplemented tag.name) path)
    : (setting.defer tag path : Trace α).Reports Holds := by
  intro report member
  obtain rfl := List.mem_singleton.mp member
  exact ⟨path, rfl, holds⟩

/-- A level reports what lies on it, or its depth. -/
theorem atLevel_reports {level : Nat} {trace : Trace α}
    (deep
      : setting.options.maxDepth < level
        → Holds (.depthExceeded setting.options.maxDepth) path)
    (below : level ≤ setting.options.maxDepth → trace.Reports Holds)
    : (atLevel setting path level trace).Reports Holds := by
  rw [atLevel]
  split
  · rename_i deeper
    exact Setting.abort_reports (deep deeper)
  · rename_i within
    exact below (Nat.le_of_not_lt within)

/-- Entries on a level report what each of them reports where it stands, or their depth. -/
theorem Element.compileAll_reports {level : Nat} {entries : List Json}
    (deep
      : setting.options.maxDepth < level
        → Holds (.depthExceeded setting.options.maxDepth) path)
    (each
      : level ≤ setting.options.maxDepth
        → ∀ position entry,
            entries[position]? = some entry
            → (setting.entry (path.item position) level entry).Reports Holds)
    : (atLevel setting path level
        (Element.compileAll setting path level 0 (entries.map Element.ofJson))).Reports Holds := by
  refine atLevel_reports deep fun within => ?_
  rw [Element.compileAll_eq, Trace.inOrder_map_items]
  refine (Trace.inOrder_reports fun position entry listed => ?_).map List.reduceOption
  rw [Nat.zero_add]
  exact (each within position entry listed).optional

end

-----------------------------------------------------------------------------------------
-- Causes and the values that they are about
-----------------------------------------------------------------------------------------

/-- What the cause says of the value at its place, and of the kind of the place. -/
def Cause.Suits (place : Place) (value : Json) : Cause → Prop
  | malformedDocument _ => False
  | schemaViolation _ => ¬ place.Contract value
  | unknownTag .element _ _ =>
      place = .element
      ∧ ∃ fields tag,
          value = .object fields
          ∧ truthyField? fields "tag" = some tag
          ∧ ∀ known : ElementTag, tag ≠ .string known.name
  | unknownTag .noteChild _ _ =>
      place = .child
      ∧ ∃ fields,
          value = .object fields
          ∧ ∀ known : ChildTag, field? fields "tag" ≠ some (.string known.name)
  | notImplemented name =>
      place = .element
      ∧ ∃ fields, value = .object fields ∧ field? fields "tag" = some (.string name)
  | depthExceeded _ =>
      place = .body ∨ (place = .columnElements ∧ ∃ entries, value = .array entries ∧ entries ≠ [])

/-- The cause is one that a body can have as a whole. -/
def Cause.OfBody : Cause → Prop
  | schemaViolation _ => True
  | depthExceeded _ => True
  | _ => False

namespace Document

/-- The path leads to a place of the kind, and to a value there that is what the cause says of it;
only a body may be missing.  An exceeded limit is the number of columns that the path goes through.
-/
structure LocatesAt (document : Document) (limit : Nat) (place : Place) (cause : Cause)
    (path : Path) : Prop where
  placed : path.At place
  value
    : (place = .body ∧ document.elements = none ∧ cause.OfBody)
      ∨ ∃ value, document.value? path = some value ∧ cause.Suits place value
  depth : ∀ payload, cause = .depthExceeded payload → payload = limit ∧ path.columnSteps = limit

/-- The path leads to a value of the document that is what the cause says of it. -/
def Locates (document : Document) (limit : Nat) (cause : Cause) (path : Path) : Prop :=
  ∃ place, document.LocatesAt limit place cause path

variable {document : Document} {limit : Nat}

/-- What is said of a value is located there; depth is said only of a body and of a column's
elements.
-/
theorem Locates.of_value {place : Place} {cause : Cause} {path : Path} {value : Json}
    (placed : path.At place) (found : document.value? path = some value)
    (suits : cause.Suits place value) (notBody : place ≠ .body)
    (notElements : place ≠ .columnElements)
    : document.Locates limit cause path := by
  refine ⟨place, placed, Or.inr ⟨value, found, suits⟩, fun payload same => ?_⟩
  rw [same] at suits
  rcases suits with isBody | ⟨isElements, _⟩
  · exact (notBody isBody).elim
  · exact (notElements isElements).elim

/-- The entry stands at the path in the document, on a level. -/
structure EntryAt (document : Document) (path : Path) (level : Nat) (entry : Json) : Prop where
  placed : path.IsEntry
  level : path.columnSteps + 1 = level
  value : document.value? path = some entry

end Document

/-- The elements of a column that has some are an array in its field of that name. -/
theorem Json.elements_of_columnEntries {column : Json} {entries : List Json}
    (shaped : column.columnEntries? = some entries) (filled : entries ≠ [])
    : ∃ fields, column = .object fields ∧ field? fields "elements" = some (.array entries) := by
  cases column with
  | object fields =>
      simp only [columnEntries?] at shaped
      split at shaped
      · exact (filled (Option.some.inj shaped).symm).elim
      · exact (filled (Option.some.inj shaped).symm).elim
      · rename_i found
        exact ⟨fields, rfl, Option.some.inj shaped ▸ found⟩
      · cases shaped
  | _ => cases shaped

namespace Document.EntryAt

variable {document : Document} {path : Path} {level : Nat} {fields : Fields}

theorem top {entries : List Json} {position : Nat} {entry : Json}
    (body : document.elements = some (.array entries)) (listed : entries[position]? = some entry)
    : document.EntryAt (Path.body.item position) 1 entry where
  placed := .top position
  level := by rw [Path.columnSteps_item]; rfl
  value := value?_item (value?_body body) listed

/-- The entries of a column of a set stand one level deeper than the set. -/
theorem nested {column position : Nat} {entries : List Json} {entry : Json}
    (set : document.EntryAt path level (.object fields))
    (array : document.value? (path.columnElements column) = some (.array entries))
    (listed : entries[position]? = some entry)
    : document.EntryAt ((path.columnElements column).item position) (level + 1) entry where
  placed := .nested set.placed column position
  level := by rw [Path.columnSteps_item, Path.columnSteps_columnElements, set.level]
  value := value?_item array listed

theorem locates {entry : Json} (stands : document.EntryAt path level entry) {limit : Nat}
    {cause : Cause} (suits : cause.Suits .element entry)
    : document.Locates limit cause path :=
  .of_value (.element stands.placed) stands.value suits (by decide) (by decide)

end Document.EntryAt

-----------------------------------------------------------------------------------------
-- Compilations report what is there
-----------------------------------------------------------------------------------------

section Compilations

variable {document : Document} {setting : Setting} {path : Path} {level : Nat} {fields : Fields}

/-- A child of a note is reported as what it is, by cases on how it is read. -/
theorem Child.located {children : List Json} {position : Nat} {child : Json}
    (note : document.EntryAt path level (.object fields))
    (listed : field? fields "elements" = some (.array children))
    (member : children[position]? = some child)
    : ((Child.ofJson child).compile setting
          ((path.field "elements").item position)).Reports
        (document.Locates setting.options.maxDepth) := by
  have placed := Path.At.child note.placed position
  have found := Document.value?_item (Document.value?_field note.value listed) member
  have located {cause : Cause} (suits : cause.Suits .child child)
      : document.Locates setting.options.maxDepth cause
          ((path.field "elements").item position) :=
    .of_value placed found suits (by decide) (by decide)
  rcases Child.walk_cases child with
    ⟨stops, fault, read⟩ | ⟨content, rfl, unnamed, read⟩ | form
  · rw [read]
    exact Setting.fault_reports (located stops.not_contract)
  · rw [read]
    exact Setting.abort_reports (located ⟨rfl, content, rfl, unnamed⟩)
  · obtain ⟨node, _, built⟩ := form.compile setting ((path.field "elements").item position)
    rw [built]
    exact .of_done node

/-- A note is reported as lacking its children, or its children are reported. -/
theorem Element.note_located (note : document.EntryAt path level (.object fields))
    (named : field? fields "tag" = some (.string ElementTag.note.name))
    : ((Element.noteOfFields fields).compile setting path level).Reports
        (document.Locates setting.options.maxDepth) := by
  cases found : arrayField? fields "elements" with
  | none =>
      rw [Element.noteOfFields, found]
      refine Setting.fault_reports (note.locates ?_)
      intro meets
      have given := (Place.element_contract_iff named).mp meets
      obtain ⟨children, listed⟩ := given
      cases found.symm.trans (arrayField?_eq_some_iff.mpr listed)
  | some children =>
      have listed := (arrayField?_eq_some_iff.mp found).1
      rw [Element.noteOfFields, found]
      simp only [Element.compile, Child.compileAll_eq, Trace.inOrder_map_items]
      refine (Trace.inOrder_reports fun position child member => ?_).map _
      rw [Nat.zero_add]
      exact Child.located note listed member

/-- A column is reported as misshaped, or its elements as too deep, or its entries are reported.
The set is within the limit, so elements that are too deep are so by one level.
-/
theorem Column.located {columns : List Json} {position : Nat} {column : Json}
    (set : document.EntryAt path level (.object fields))
    (within : level ≤ setting.options.maxDepth)
    (listed : field? fields "columns" = some (.array columns))
    (member : columns[position]? = some column)
    (each
      : ∀ entries,
          column.columnEntries? = some entries
          → ∀ entry ∈ entries, ∀ place,
              document.EntryAt place (level + 1) entry
              → level + 1 ≤ setting.options.maxDepth
              → (setting.entry place (level + 1) entry).Reports
                  (document.Locates setting.options.maxDepth))
    : ((Column.ofJson column).compile setting ((path.field "columns").item position)
          level).Reports
        (document.Locates setting.options.maxDepth) := by
  have found := Document.value?_item (Document.value?_field set.value listed) member
  cases shape : column.columnEntries? with
  | none =>
      obtain ⟨fault, faulty⟩ := Column.ofJson_of_misshaped shape
      rw [faulty]
      refine Setting.fault_reports
        (.of_value (.column set.placed position) found ?_ (by decide) (by decide))
      intro meets
      obtain ⟨entries, shaped⟩ := meets
      cases shape.symm.trans shaped
  | some entries =>
      rw [Column.ofJson_of_entries shape]
      cases entries with
      | nil => exact .of_done _
      | cons first rest =>
          have filled : first :: rest ≠ [] := List.cons_ne_nil first rest
          obtain ⟨content, rfl, elements⟩ := elements_of_columnEntries shape filled
          have array : document.value? (path.columnElements position)
              = some (.array (first :: rest)) :=
            Document.value?_field found elements
          rw [List.map_cons, Column.compile, ← List.map_cons]
          refine (Element.compileAll_reports (fun deep => ?_)
            fun shallow index entry there => ?_).map _
          · refine ⟨.columnElements, .columnElements set.placed position,
              Or.inr ⟨_, array, Or.inr ⟨rfl, _, rfl, filled⟩⟩, fun payload same => ?_⟩
            have steps := path.columnSteps_columnElements position
            have here := set.level
            cases same
            exact ⟨rfl, steps.trans (by omega)⟩
          · exact each _ shape entry (List.mem_of_getElem? there) _ (set.nested array there)
              shallow

/-- An entry that is neither a note nor a set is reported as what it is, by cases on its tag. -/
theorem Element.ofTagged_located {tag : ElementTag} (notNote : tag ≠ .note)
    (notSet : tag ≠ .columnSet) (stands : document.EntryAt path level (.object fields))
    (named : field? fields "tag" = some (.string tag.name))
    : ((Element.ofTagged fields tag).compile setting path level).Reports
        (document.Locates setting.options.maxDepth) := by
  have faulted {fault : Fault} (lacks : ¬ tag.MetBy fields)
      : (setting.fault fault path : Trace Node).Reports
          (document.Locates setting.options.maxDepth) :=
    Setting.fault_reports (stands.locates fun meets =>
      lacks ((Place.element_contract_iff named).mp meets))
  cases tag with
  | note => exact (notNote rfl).elim
  | columnSet => exact (notSet rfl).elim
  | hr => exact .of_done _
  | actions => exact Setting.defer_reports (stands.locates ⟨rfl, fields, rfl, named⟩)
  | markdown => exact Setting.defer_reports (stands.locates ⟨rfl, fields, rfl, named⟩)
  | div =>
      rcases divOfFields_cases fields with ⟨_, read⟩ | ⟨lacks, fault, faulty⟩
      · rw [Element.ofTagged, read]
        exact .of_done _
      · rw [Element.ofTagged, faulty]
        exact faulted lacks
  | img =>
      rcases imgOfFields_cases fields with ⟨_, read⟩ | ⟨lacks, fault, faulty⟩
      · rw [Element.ofTagged, read]
        exact .of_done _
      · rw [Element.ofTagged, faulty]
        exact faulted lacks

/-- Every entry on a level within the limit is reported as what it is.  By recursion over the entry:
cases on how it is read, and for a set the entries of its columns, one level deeper.
-/
theorem Setting.entry_located {level : Nat} {path : Path} (entry : Json)
    (stands : document.EntryAt path level entry) (within : level ≤ setting.options.maxDepth)
    : (setting.entry path level entry).Reports
        (document.Locates setting.options.maxDepth) := by
  cases Element.reading entry with
  | lacking fault untagged read =>
      rw [Setting.entry, read]
      refine Setting.fault_reports (stands.locates ?_)
      intro meets
      obtain ⟨fields, tag, shape, given, _⟩ := meets
      cases (untagged fields shape).symm.trans given
  | unknown fields value shape given unnamed read =>
      rw [Setting.entry, read]
      exact Setting.abort_reports (stands.locates ⟨rfl, fields, value, shape, given, unnamed⟩)
  | tagged fields tag shape named read =>
      rw [shape] at stands
      by_cases isNote : tag = .note
      · subst isNote
        rw [Setting.entry, read]
        exact Element.note_located stands named
      by_cases isSet : tag = .columnSet
      · subst isSet
        cases set : arrayField? fields "columns" with
        | none =>
            rw [Setting.entry, read, Element.ofTagged, set]
            refine Setting.fault_reports (stands.locates ?_)
            intro meets
            obtain ⟨columns, listed⟩ := (Place.element_contract_iff named).mp meets
            cases set.symm.trans (arrayField?_eq_some_iff.mpr listed)
        | some columns =>
            obtain ⟨listed, filled⟩ := arrayField?_eq_some_iff.mp set
            rw [shape, Setting.entry_of_columns named listed filled]
            refine (Trace.inOrder_reports fun position column member => ?_).map _
            rw [Nat.zero_add]
            refine Column.located stands within listed member
              fun entries shaped other inside place below deeper => ?_
            have smaller : sizeOf other < sizeOf entry := by
              rw [shape]
              exact Nat.lt_trans (sizeOf_lt_of_entry shaped inside)
                (sizeOf_lt_of_item listed (List.mem_of_getElem? member))
            exact Setting.entry_located other below deeper
      · rw [Setting.entry, read]
        exact Element.ofTagged_located isNote isSet stands named
termination_by sizeOf entry

theorem Header.compileOptional_located
    : (Header.compileOptional setting (document.header.map Header.ofJson)).Reports
        (document.Locates setting.options.maxDepth) := by
  cases given : document.header with
  | none => exact .of_done none
  | some value =>
      rw [Option.map_some, Header.compileOptional]
      rcases Header.ofJson_cases value with ⟨_, _, _, built⟩ | ⟨lacks, fault, faulty⟩
      · rw [built]
        exact (Trace.Reports.of_done _).optional
      · rw [faulty]
        have found := Document.value?_header given
        exact (Setting.fault_reports
          (.of_value .header found lacks (by decide) (by decide))).optional

/-- What is said of the body is located there, also when the body is missing. -/
theorem Document.locates_body {limit : Nat} {cause : Cause} (whole : cause.OfBody)
    (suits : ∀ value, document.elements = some value → cause.Suits .body value)
    (depth : ∀ payload, cause = .depthExceeded payload → payload = limit ∧ 0 = limit)
    : document.Locates limit cause Path.body := by
  refine ⟨.body, .body, ?_, depth⟩
  cases given : document.elements with
  | none => exact Or.inl ⟨rfl, rfl, whole⟩
  | some value => exact Or.inr ⟨value, value?_body given, suits value given⟩

/-- A body is reported as faulty or as too deep, or its entries are reported. -/
theorem Body.located
    : ((Body.ofJson document.elements).compile setting).Reports
        (document.Locates setting.options.maxDepth) := by
  have deep (deeper : setting.options.maxDepth < 1)
      : document.Locates setting.options.maxDepth (.depthExceeded setting.options.maxDepth)
          Path.body := by
    refine Document.locates_body trivial (fun _ _ => Or.inl rfl) fun payload same => ?_
    cases same
    exact ⟨rfl, by omega⟩
  cases found : document.elements.bind array? with
  | none =>
      obtain ⟨fault, faulty⟩ := Body.ofJson_of_not_array found
      rw [faulty]
      refine Trace.Reports.andThen (Setting.fault_reports ?_).optional fun _ => ?_
      · refine Document.locates_body trivial (fun value given meets => ?_) fun payload same => ?_
        · obtain ⟨entries, rfl⟩ := meets
          rw [given] at found
          cases found
        · cases same
      · have none (position : Nat) (entry : Json) (listed : ([] : List Json)[position]? = some entry)
            : (setting.entry (Path.body.item position) 1 entry).Reports
                (document.Locates setting.options.maxDepth) := by
          cases listed
        exact Element.compileAll_reports deep fun _ => none
  | some entries =>
      have body := array_of_bind found
      rw [body, Body.compile_of_array]
      exact Element.compileAll_reports deep fun within position entry listed =>
        Setting.entry_located entry (.top body listed) within

end Compilations

namespace Document

/-- Every report of a run, the fatal one included, is about a value that is what it says. -/
theorem trace_located (document : Document) (options : Options)
    : (document.trace options).Reports (document.Locates options.maxDepth) := by
  have header := @Header.compileOptional_located document (document.setting options)
  have body := @Body.located document (document.setting options)
  exact header.andThen fun node => body.map (Node.card node)

/-- The report is given to a caller of the compilation: as its failure, or as a warning. -/
def Gives (document : Document) (options : Options) (report : Diagnostic) : Prop :=
  document.compile options = .error report
  ∨ ∃ compilation,
      document.compile options = .ok compilation ∧ report ∈ compilation.warnings

theorem mem_reports_of_gives {document : Document} {options : Options} {report : Diagnostic}
    (given : document.Gives options report)
    : report ∈ (document.trace options).reports := by
  rcases given with failed | ⟨compilation, compiled, member⟩
  · have ended := compile_error_iff_trace.mp failed
    simp [Trace.reports, ended]
  · rw [← reports_of_ok compiled] at member
    exact member

theorem value?_eq_none_of_missing {document : Document} (missing : document.elements = none)
    : document.value? Path.body = none := by
  simp only [value?, Path.body, Path.top, section?, missing, Option.bind_none]

/-- Every report has a path of one of a few forms, and other than for a missing body the path leads
to a value of the document that is what the cause of the report says.  So no violation is reported
of a value that meets the contract of its place.
-/
theorem compile_locates {document : Document} {options : Options} {report : Diagnostic}
    (given : document.Gives options report)
    : ∃ path,
        report.path = some path
        ∧ document.Locates options.maxDepth report.cause path
        ∧ ∀ place value message,
            path.At place
            → document.value? path = some value
            → place.Contract value
            → report.cause ≠ .schemaViolation message := by
  obtain ⟨path, found, place, located⟩ :=
    document.trace_located options report (mem_reports_of_gives given)
  refine ⟨path, found, ⟨place, located⟩, ?_⟩
  intro other value message placed leads meets violation
  obtain rfl := placed.unique located.placed
  rcases located.value with ⟨rfl, missing, _⟩ | ⟨again, leadsAgain, suits⟩
  · cases placed
    rw [value?_eq_none_of_missing missing] at leads
    cases leads
  · obtain rfl := Option.some.inj (leads.symm.trans leadsAgain)
    rw [violation] at suits
    exact suits meets

/-- A note in a column, with a child that lacks its content. -/
def unfilled : Document where
  config := none
  header := none
  elements := some (.array
    [.object
      [("columns", .array
          [.object
            [("elements", .array
              [.object
                [("elements", .array [.object [("tag", .string "lark_md")]]),
                  ("tag", .string "note")]])]]),
        ("tag", .string "column_set")]])
  sourceId := 0

/-- The child is located in the note in the column.  Witness: evaluation of the compilation. -/
theorem unfilled_located
    : ∃ report,
        unfilled.Gives { level := .warning, locale := none, maxDepth := 2 } report
        ∧ report.path
            = some (((((Path.body.item 0).columnElements 0).item 0).field "elements").item 0)
        ∧ unfilled.Locates 2 report.cause
            (((((Path.body.item 0).columnElements 0).item 0).field "elements").item 0) := by
  have given
      : unfilled.Gives { level := .warning, locale := none, maxDepth := 2 }
          (.warning (.schemaViolation (Fault.childContentMissing .larkMd).message)
            (((((Path.body.item 0).columnElements 0).item 0).field "elements").item 0) 0) :=
    Or.inr ⟨_, rfl, List.mem_singleton.mpr rfl⟩
  obtain ⟨path, found, located, _⟩ := compile_locates given
  obtain rfl := Option.some.inj found
  exact ⟨_, given, rfl, located⟩

end Document

end MessageCard
