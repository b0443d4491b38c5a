import MessageCard.Proofs.GrammarAcceptance
import MessageCard.Proofs.Offences
import MessageCard.Proofs.VisitedEntries

/-! Below the strict level a compilation fails exactly when the walk through its document meets an
offence, and then with the first one in document order.  The rule is stated once for traces; it
passes through lists because the offences of an item lie in the item.
-/

namespace MessageCard

open Json

/-- The place and the cause are those of the first offence: all others come later. -/
structure FirstOffence (Offends : Path → Cause → Prop) (place : Path) (cause : Cause) : Prop where
  offends : Offends place cause
  least
    : ∀ other reason,
        Offends other reason
        → (other = place ∧ reason = cause) ∨ place.Before other

/-- There is one first offence only, since no place comes before itself. -/
theorem FirstOffence.unique {Offends : Path → Cause → Prop} {place other : Path}
    {cause reason : Cause} (first : FirstOffence Offends place cause)
    (second : FirstOffence Offends other reason)
    : other = place ∧ reason = cause := by
  rcases first.least other reason second.offends with same | before
  · exact same
  · rcases second.least place cause first.offends with ⟨rfl, rfl⟩ | after
    · exact ⟨rfl, rfl⟩
    · exact (place.before_irrefl (Path.before_trans before after)).elim

namespace Trace

variable {α β : Type} {sourceId : Nat} {Offends Others : Path → Cause → Prop}

/-- The trace fails with the first offence, and runs to its end if there is none. -/
structure EndsAtFirst (sourceId : Nat) (Offends : Path → Cause → Prop) (trace : Trace α)
    : Prop where
  sound : trace.Runs → ∀ place cause, ¬ Offends place cause
  first
    : ∀ fatal,
        trace.outcome = .aborted fatal
        → ∃ place cause,
            FirstOffence Offends place cause ∧ fatal = .fatal cause place sourceId

namespace EndsAtFirst

variable {trace : Trace α}

theorem of_runs (runs : trace.Runs) (clean : ∀ place cause, ¬ Offends place cause)
    : trace.EndsAtFirst sourceId Offends where
  sound := fun _ => clean
  first := fun fatal ended => (runs fatal ended).elim

theorem congr (ends : trace.EndsAtFirst sourceId Offends)
    (same : ∀ place cause, Offends place cause ↔ Others place cause)
    : trace.EndsAtFirst sourceId Others := by
  obtain rfl : Offends = Others :=
    funext fun place => funext fun cause => propext (same place cause)
  exact ends

/-- How a trace fails depends on its outcome alone, and only on whether it fails. -/
theorem of_aborted_iff {other : Trace β} (ends : trace.EndsAtFirst sourceId Offends)
    (same : ∀ fatal, other.outcome = .aborted fatal ↔ trace.outcome = .aborted fatal)
    : other.EndsAtFirst sourceId Offends where
  sound := fun runs => ends.sound fun fatal aborted => runs fatal ((same fatal).mpr aborted)
  first := fun fatal aborted => ends.first fatal ((same fatal).mp aborted)

theorem map (ends : trace.EndsAtFirst sourceId Offends) (f : α → β)
    : (trace.map f).EndsAtFirst sourceId Offends := by
  refine ends.of_aborted_iff fun fatal => ?_
  rcases trace with ⟨reports, outcome⟩
  cases outcome <;> simp [Trace.map, Trace.andThen, after, done]

theorem optional (ends : trace.EndsAtFirst sourceId Offends)
    : trace.optional.EndsAtFirst sourceId Offends := by
  refine ends.of_aborted_iff fun fatal => ?_
  rcases trace with ⟨reports, outcome⟩
  cases outcome <;> simp [Trace.optional]

/-- A part that comes to a result leaves the failure to what follows. -/
theorem after_result {next : α → Trace β} (runs : trace.Runs)
    (kept : trace.outcome ≠ .dropped)
    (rest : ∀ result, (next result).EndsAtFirst sourceId Offends)
    : (trace.andThen next).EndsAtFirst sourceId Offends := by
  obtain ⟨result, ended⟩ := done_of_runs runs kept
  refine (rest result).of_aborted_iff fun fatal => ?_
  rw [andThen_outcome next ended]

/-- A sequence fails with the first offence of its parts: those of the second part count unless
the first part stops, and come later.  Cases on the outcome of the first part.
-/
theorem andThen {next : α → Trace β} {Stops : Prop}
    (first : trace.EndsAtFirst sourceId Offends)
    (rest
      : ∀ result,
          trace.outcome = .done result → (next result).EndsAtFirst sourceId Others)
    (passed : ∀ result, trace.outcome = .done result → ¬ Stops)
    (stopped : trace.outcome = .dropped → Stops)
    (ordered
      : ∀ place cause other reason,
          Offends place cause → Others other reason → place.Before other)
    : (trace.andThen next).EndsAtFirst sourceId
        (fun place cause => Offends place cause ∨ ¬ Stops ∧ Others place cause) := by
  cases ended : trace.outcome with
  | done result =>
      -- nothing offends in the first part, so only the second one counts
      have clean := first.sound (runs_of_done ended)
      have later : (trace.andThen next).EndsAtFirst sourceId Others :=
        (rest result ended).of_aborted_iff fun fatal => by rw [andThen_outcome next ended]
      refine later.congr fun place cause => ?_
      simp only [clean place cause, passed result ended, not_false_eq_true, true_and, false_or]
  | dropped =>
      have clean := first.sound (by simp [Runs, ended])
      refine of_runs (by simp [Runs, Trace.andThen, ended]) ?_
      rintro place cause (offends | ⟨pass, _⟩)
      · exact clean place cause offends
      · exact pass (stopped ended)
  | aborted fatal =>
      -- the second part is not run, but what would offend in it comes later anyway
      obtain ⟨place, cause, ⟨offends, least⟩, rfl⟩ := first.first fatal ended
      have whole : (trace.andThen next).outcome = .aborted (.fatal cause place sourceId) := by
        simp only [Trace.andThen, ended]
      constructor
      case sound => exact fun runs => (runs _ whole).elim
      case first =>
        intro other aborted
        refine ⟨place, cause, ⟨Or.inl offends, ?_⟩,
          (Outcome.aborted.inj (whole.symm.trans aborted)).symm⟩
        rintro later reason (own | ⟨_, others⟩)
        · exact least later reason own
        · exact Or.inr (ordered place cause later reason offends others)

/-- The trace fails with a report exactly when it is that of the first offence. -/
theorem aborted_iff (ends : trace.EndsAtFirst sourceId Offends) {fatal : Diagnostic}
    : trace.outcome = .aborted fatal
      ↔ ∃ place cause,
          FirstOffence Offends place cause ∧ fatal = .fatal cause place sourceId := by
  refine ⟨ends.first fatal, ?_⟩
  rintro ⟨place, cause, first, rfl⟩
  cases ended : trace.outcome with
  | aborted other =>
      obtain ⟨again, reason, second, rfl⟩ := ends.first other ended
      obtain ⟨rfl, rfl⟩ := first.unique second
      rfl
  | _ =>
      -- a trace that does not fail has no offence at all
      have runs : trace.Runs := by simp [Runs, ended]
      exact (ends.sound runs place cause first.offends).elim

/-- The trace fails exactly when there is an offence. -/
theorem aborts_iff (ends : trace.EndsAtFirst sourceId Offends)
    : (∃ fatal, trace.outcome = .aborted fatal) ↔ ∃ place cause, Offends place cause := by
  constructor
  · rintro ⟨fatal, ended⟩
    obtain ⟨place, cause, first, _⟩ := ends.first fatal ended
    exact ⟨place, cause, first.offends⟩
  · rintro ⟨place, cause, offends⟩
    by_contra never
    exact ends.sound (fun fatal ended => never ⟨fatal, ended⟩) place cause offends

end EndsAtFirst

section Traversal

variable {each : Nat → α → Trace β} {Stops : α → Prop}
  {OffendsAt : Nat → α → Path → Cause → Prop} {items : List α} (path : Path)
  (held
    : ∀ position item place cause,
        OffendsAt position item place cause → (path.item position).holds place = true)
  (ends
    : ∀ item ∈ items,
        ∀ position, (each position item).EndsAtFirst sourceId (OffendsAt position item))
  (passed
    : ∀ item ∈ items,
        ∀ position result, (each position item).outcome = .done result → ¬ Stops item)
  (stopped
    : ∀ item ∈ items, ∀ position, (each position item).outcome = .dropped → Stops item)

include held ends passed stopped

/-- A traversal fails with the first offence among the items that are reached, when every item
fails with its own first one and the offences of an item lie in it.  By list induction.
-/
theorem inOrder_endsAtFirst_from (index : Nat)
    : (inOrder each index items).EndsAtFirst sourceId (fun place cause =>
        ∃ position item,
          Reached Stops items position item
          ∧ OffendsAt (index + position) item place cause) := by
  induction items generalizing index with
  | nil =>
      refine .of_runs (runs_of_done rfl) ?_
      rintro place cause ⟨position, item, reached, _⟩
      simpa using reached.mem
  | cons item rest ih =>
      have below := ih (fun other member => ends other (by simp [member]))
        (fun other member => passed other (by simp [member]))
        (fun other member => stopped other (by simp [member])) (index + 1)
      -- what the rest reports lies in later items, so it comes after the first item's offences
      have ordered (place : Path) (cause : Cause) (other : Path) (reason : Cause)
          (offends : OffendsAt index item place cause)
          (later
            : ∃ position next,
                Reached Stops rest position next
                ∧ OffendsAt (index + 1 + position) next other reason)
          : place.Before other := by
        obtain ⟨position, next, _, others⟩ := later
        have lower : index < index + 1 + position := by omega
        exact Path.before_of_items lower (held _ _ _ _ offends) (held _ _ _ _ others)
      have whole := (ends item (by simp) index).andThen
        (fun result _ => below.map (result :: ·)) (passed item (by simp) index)
        (stopped item (by simp) index) ordered
      refine whole.congr fun place cause => ?_
      rw [Reached.exists_cons_iff]
      simp only [Nat.add_zero, Nat.add_assoc, Nat.add_comm 1]

theorem inOrder_endsAtFirst
    : (inOrder each 0 items).EndsAtFirst sourceId (fun place cause =>
        ∃ position item,
          Reached Stops items position item ∧ OffendsAt position item place cause) := by
  have walked := inOrder_endsAtFirst_from path held ends passed stopped 0
  simpa only [Nat.zero_add] using walked

end Traversal

end Trace

-----------------------------------------------------------------------------------------
-- Lists that fail when their items do
-----------------------------------------------------------------------------------------

variable {setting : Setting}

/-- A compilation that is ended at a place fails with the only offence. -/
theorem Setting.abort_endsAtFirst {α : Type} {Offends : Path → Cause → Prop} {cause : Cause}
    {path : Path}
    (only : ∀ place reason, Offends place reason ↔ place = path ∧ reason = cause)
    : (setting.abort cause path : Trace α).EndsAtFirst setting.sourceId Offends where
  sound := fun runs => (Setting.abort_not_runs setting cause path runs).elim
  first := by
    intro fatal aborted
    refine ⟨path, cause, ⟨(only path cause).mpr ⟨rfl, rfl⟩, ?_⟩, ?_⟩
    · exact fun place reason offends => Or.inl ((only place reason).mp offends)
    · exact (Outcome.aborted.inj aborted).symm

/-- A list of entries on a level fails with its first offence, when each entry does. -/
theorem Element.compileAll_endsAtFirst {level : Nat} {entries : List Json}
    (each
      : ∀ entry ∈ entries, ∀ path,
          (setting.entry path level entry).EndsAtFirst setting.sourceId
            (entry.EntryOffends setting.options.maxDepth path level))
    (path : Path)
    : (atLevel setting path level
          (Element.compileAll setting path level 0 (entries.map Element.ofJson))).EndsAtFirst
        setting.sourceId (ListOffends setting.options.maxDepth path level entries) := by
  rcases Nat.lt_or_ge setting.options.maxDepth level with deep | within
  · rw [atLevel, if_pos deep]
    exact Setting.abort_endsAtFirst fun _ _ => listOffends_iff_of_lt deep
  · rw [atLevel_of_le within, Element.compileAll_eq, Trace.inOrder_map_items]
    have walked
        : (Trace.inOrder
            (fun position entry =>
              (setting.entry (path.item position) level entry).optional)
            0 entries).EndsAtFirst setting.sourceId (fun place cause =>
              ∃ position entry,
                Reached (fun _ => False) entries position entry
                ∧ EntryOffends setting.options.maxDepth (path.item position) level entry place
                    cause) := by
      refine Trace.inOrder_endsAtFirst path ?held ?ends ?passed ?stopped
      case held => exact fun _ _ _ _ offends => offends.held
      case ends =>
        exact fun entry member position => (each entry member (path.item position)).optional
      case passed => exact fun _ _ _ _ _ stops => stops
      case stopped => exact fun _ _ _ dropped => Trace.optional_not_dropped _ dropped
    refine (walked.map List.reduceOption).congr fun place cause => ?_
    simp only [listOffends_iff_of_le within, Reached.never_iff]

/-- A set fails with its first offence, which is that of a column, when each column does. -/
theorem Setting.set_endsAtFirst {fields : Fields} {columns : List Json} {level : Nat}
    (named : field? fields "tag" = some (.string ElementTag.columnSet.name))
    (set : arrayField? fields "columns" = some columns)
    (each
      : ∀ column ∈ columns, ∀ path,
          ((Column.ofJson column).compile setting path level).EndsAtFirst setting.sourceId
            (column.ColumnOffends setting.options.maxDepth path level))
    (path : Path)
    : (setting.entry path level (.object fields)).EndsAtFirst setting.sourceId
        (EntryOffends setting.options.maxDepth path level (.object fields)) := by
  obtain ⟨listed, filled⟩ := arrayField?_eq_some_iff.mp set
  refine Trace.EndsAtFirst.congr ?_ fun _ _ => (entryOffends_columnSet_iff named).symm
  rw [Setting.entry_of_columns named listed filled, itemsOf_of_listed listed filled]
  refine Trace.EndsAtFirst.map (Trace.inOrder_endsAtFirst (path.field "columns")
    ?held ?ends ?passed ?stopped) _
  case held => exact fun _ _ _ _ offends => offends.held
  case ends => exact fun column member position => each column member _
  case passed =>
    intro column _ position node ended stops
    obtain ⟨entries, shaped⟩ := Column.shaped_of_done ended
    cases stops.symm.trans shaped
  case stopped =>
    intro column _ position dropped
    cases shape : column.columnEntries? with
    | none => exact shape
    | some entries =>
        rw [Column.ofJson_of_entries shape] at dropped
        exact (Column.elements_not_dropped setting _ level _ dropped).elim

theorem Child.passes_of_done {path : Path} {child : Json} {node : Node}
    (ended : ((Child.ofJson child).compile setting path).outcome = .done node)
    : ¬ child.StopsNote := by
  rcases Child.walk_cases child with ⟨_, fault, read⟩ | ⟨_, _, _, read⟩ | form
  · rw [read] at ended
    exact (Setting.fault_not_done ended).elim
  · rw [read] at ended
    cases ended
  · exact form.passes

theorem Child.stops_of_dropped {path : Path} {child : Json}
    (ended : ((Child.ofJson child).compile setting path).outcome = .dropped)
    : child.StopsNote := by
  rcases Child.walk_cases child with ⟨stops, _⟩ | ⟨_, _, _, read⟩ | form
  · exact stops
  · rw [read] at ended
    cases ended
  · obtain ⟨node, _, built⟩ := form.compile setting path
    rw [built] at ended
    cases ended

-----------------------------------------------------------------------------------------
-- Below the strict level
-----------------------------------------------------------------------------------------

section Lenient

variable (lenient : setting.options.level ≠ .error)

include lenient

/-- Below the strict level a fault does not end the compilation, by cases on the level. -/
theorem Setting.fault_runs {α : Type} (fault : Fault) (path : Path)
    : (setting.fault fault path : Trace α).Runs := by
  intro fatal aborted
  cases level : setting.options.level with
  | error => exact lenient level
  | _ =>
      simp only [Setting.fault, level, Level.verdict] at aborted
      cases aborted

/-- A child of a note fails with its own offence, by cases on how the walk treats it. -/
theorem Child.compile_endsAtFirst (path : Path) (child : Json)
    : ((Child.ofJson child).compile setting path).EndsAtFirst setting.sourceId
        (child.ChildOffends path) := by
  rcases Child.walk_cases child with
    ⟨stops, fault, read⟩ | ⟨fields, rfl, unnamed, read⟩ | form
  · rw [read]
    exact .of_runs (Setting.fault_runs lenient fault path) fun _ _ => stops.not_offends
  · rw [read]
    refine Setting.abort_endsAtFirst fun place reason => ⟨?_, ?_⟩
    · rintro ⟨_⟩
      exact ⟨rfl, rfl⟩
    · rintro ⟨rfl, rfl⟩
      exact .tag unnamed
  · obtain ⟨node, _, built⟩ := form.compile setting path
    rw [built]
    exact .of_runs (Trace.runs_of_done rfl) fun _ _ => form.not_offends

/-- A column fails with the first offence of its entries, when each entry does. -/
theorem Column.compile_endsAtFirst {level : Nat} {column : Json}
    (each
      : ∀ entries,
          column.columnEntries? = some entries
          → ∀ entry ∈ entries, ∀ path,
              (setting.entry path (level + 1) entry).EndsAtFirst setting.sourceId
                (entry.EntryOffends setting.options.maxDepth path (level + 1)))
    (path : Path)
    : ((Column.ofJson column).compile setting path level).EndsAtFirst setting.sourceId
        (column.ColumnOffends setting.options.maxDepth path level) := by
  cases shape : column.columnEntries? with
  | none =>
      obtain ⟨fault, faulty⟩ := Column.ofJson_of_misshaped shape
      rw [faulty]
      refine .of_runs (Setting.fault_runs lenient fault path) ?_
      rintro place cause ⟨shaped, _, _⟩
      cases shape.symm.trans shaped
  | some entries =>
      have offends_iff (place : Path) (cause : Cause)
          : column.ColumnOffends setting.options.maxDepth path level place cause
            ↔ entries ≠ []
              ∧ ListOffends setting.options.maxDepth (path.field "elements") (level + 1) entries
                  place cause := by
        constructor
        · rintro ⟨shaped, occupied, below⟩
          obtain rfl := Option.some.inj (shape.symm.trans shaped)
          exact ⟨occupied, below⟩
        · rintro ⟨occupied, below⟩
          exact .entries shape occupied below
      have below := Element.compileAll_endsAtFirst (each entries shape) (path.field "elements")
      rw [Column.ofJson_of_entries shape]
      cases entries with
      | nil =>
          refine .of_runs (Trace.runs_of_done rfl) fun place cause offends => ?_
          exact ((offends_iff place cause).mp offends).1 rfl
      | cons first rest =>
          refine (below.map _).congr fun place cause => ?_
          simp only [offends_iff, ne_eq, List.cons_ne_nil, not_false_eq_true, true_and]

/-- A note fails with its first offence, which is that of a child. -/
theorem Element.note_endsAtFirst {fields : Fields}
    (named : field? fields "tag" = some (.string ElementTag.note.name)) (path : Path)
    (level : Nat)
    : ((Element.noteOfFields fields).compile setting path level).EndsAtFirst setting.sourceId
        (EntryOffends setting.options.maxDepth path level (.object fields)) := by
  refine Trace.EndsAtFirst.congr ?_ fun _ _ => (entryOffends_note_iff named).symm
  cases listed : arrayField? fields "elements" with
  | none =>
      rw [Element.noteOfFields, listed]
      refine .of_runs (Setting.fault_runs lenient _ path) ?_
      rintro place cause ⟨position, child, reached, _⟩
      simpa [itemsOf, listed] using reached.mem
  | some children =>
      rw [Element.noteOfFields, listed, itemsOf, listed, Option.getD_some]
      simp only [Element.compile, Child.compileAll_eq, Trace.inOrder_map_items]
      refine Trace.EndsAtFirst.map (Trace.inOrder_endsAtFirst (path.field "elements")
        ?held ?ends ?passed ?stopped) _
      case held => exact fun _ _ _ _ offends => offends.held
      case ends => exact fun child _ position => Child.compile_endsAtFirst lenient _ child
      case passed => exact fun _ _ _ _ => Child.passes_of_done
      case stopped => exact fun _ _ _ => Child.stops_of_dropped

/-- An entry that is neither a note nor a set does not end the compilation, by cases on its tag. -/
theorem Element.ofTagged_runs {fields : Fields} {tag : ElementTag} (notNote : tag ≠ .note)
    (notSet : tag ≠ .columnSet) (path : Path) (level : Nat)
    : ((Element.ofTagged fields tag).compile setting path level).Runs := by
  cases tag with
  | note => exact (notNote rfl).elim
  | columnSet => exact (notSet rfl).elim
  | hr => exact Trace.runs_of_done rfl
  | actions => exact fun fatal aborted => by cases aborted
  | markdown => exact fun fatal aborted => by cases aborted
  | div =>
      rcases divOfFields_cases fields with ⟨_, read⟩ | ⟨_, fault, faulty⟩
      · rw [Element.ofTagged, read]
        exact Trace.runs_of_done rfl
      · rw [Element.ofTagged, faulty]
        exact Setting.fault_runs lenient fault path
  | img =>
      rcases imgOfFields_cases fields with ⟨_, read⟩ | ⟨_, fault, faulty⟩
      · rw [Element.ofTagged, read]
        exact Trace.runs_of_done rfl
      · rw [Element.ofTagged, faulty]
        exact Setting.fault_runs lenient fault path

/-- Every entry fails with its first offence.  By recursion over the entry: cases on how it is
read, and for a set the entries of its columns, one level deeper.
-/
theorem Setting.entry_endsAtFirst (level : Nat) (entry : Json) (path : Path)
    : (setting.entry path level entry).EndsAtFirst setting.sourceId
        (entry.EntryOffends setting.options.maxDepth path level) := by
  rcases Element.reading entry with
    ⟨fault, untagged, read⟩ | ⟨fields, value, rfl, given, unnamed, read⟩
      | ⟨fields, tag, shape, named, read⟩
  · rw [Setting.entry, read]
    exact .of_runs (Setting.fault_runs lenient fault path) fun _ _ =>
      not_entryOffends_of_untagged untagged
  · rw [Setting.entry, read]
    exact Setting.abort_endsAtFirst fun _ _ => entryOffends_iff_of_unnamed given unnamed
  · by_cases isNote : tag = .note
    · subst isNote
      rw [Setting.entry, read, shape]
      exact Element.note_endsAtFirst lenient named path level
    by_cases isSet : tag = .columnSet
    · subst isSet
      cases set : arrayField? fields "columns" with
      | none =>
          rw [Setting.entry, read, Element.ofTagged, set, shape]
          refine .of_runs (Setting.fault_runs lenient _ path) fun place cause offends => ?_
          obtain ⟨position, column, reached, _⟩ :=
            (entryOffends_columnSet_iff named).mp offends
          simpa [itemsOf, set] using reached.mem
      | some columns =>
          rw [shape]
          refine Setting.set_endsAtFirst named set (fun column member place => ?_) path
          refine Column.compile_endsAtFirst lenient (fun entries shaped other inside => ?_) place
          have smaller : sizeOf other < sizeOf entry := by
            rw [shape]
            exact Nat.lt_trans (sizeOf_lt_of_entry shaped inside)
              (sizeOf_lt_of_item (arrayField?_eq_some_iff.mp set).1 member)
          exact Setting.entry_endsAtFirst (level + 1) other
    · -- the other tags hold no entries and no children, so nothing in them can offend
      rw [Setting.entry, read]
      refine .of_runs (Element.ofTagged_runs lenient isNote isSet path level) ?_
      intro place cause offends
      rw [shape] at offends
      rcases offends.of_tag named with ⟨same, _⟩ | ⟨same, _⟩
      · exact isNote same
      · exact isSet same
termination_by sizeOf entry

theorem Header.compileOptional_runs (header : Option Header)
    : (Header.compileOptional setting header).Runs := by
  rcases header with _ | (fault | ⟨template, title⟩)
  · exact Trace.runs_of_done rfl
  · exact Trace.optional_runs_iff.mpr (Setting.fault_runs lenient fault Path.header)
  · exact Trace.runs_of_done rfl

/-- A body fails with the first offence of its entries; its own fault is none. -/
theorem Body.compile_endsAtFirst (elements : Option Json)
    : ((Body.ofJson elements).compile setting).EndsAtFirst setting.sourceId
        (ListOffends setting.options.maxDepth Path.body 1
          ((elements.bind array?).getD [])) := by
  have below := Element.compileAll_endsAtFirst
    (fun entry (_ : entry ∈ (elements.bind array?).getD []) path =>
      Setting.entry_endsAtFirst lenient 1 entry path) Path.body
  cases found : elements.bind array? with
  | none =>
      obtain ⟨fault, faulty⟩ := Body.ofJson_of_not_array found
      rw [found] at below
      rw [faulty, Body.compile]
      refine .after_result ?_ (Trace.optional_not_dropped _) fun _ => below
      exact Trace.optional_runs_iff.mpr (Setting.fault_runs lenient fault Path.body)
  | some entries =>
      rw [found] at below
      rw [array_of_bind found, Body.compile_of_array]
      exact below

end Lenient

/-- Below the strict level, a run of a document fails with its first offence. -/
theorem Document.trace_endsAtFirst {document : Document} {options : Options}
    (lenient : options.level ≠ .error)
    : (document.trace options).EndsAtFirst document.sourceId
        (document.Offends options.maxDepth) := by
  have strictless : (document.setting options).options.level ≠ .error := lenient
  refine .after_result (Header.compileOptional_runs strictless _)
    (Header.compileOptional_not_dropped _ _) fun header => ?_
  exact (Body.compile_endsAtFirst strictless document.elements).map (Node.card header)

/-- Below the strict level, a compilation fails exactly when the walk through the document meets
an offence, and then with the first offence in document order, at its place.
-/
theorem Document.compile_first_offence {document : Document} {options : Options}
    (lenient : options.level ≠ .error)
    : (∀ fatal,
        document.compile options = .error fatal
        ↔ ∃ place cause,
            FirstOffence (document.Offends options.maxDepth) place cause
            ∧ fatal = .fatal cause place document.sourceId)
      ∧ ((∃ fatal, document.compile options = .error fatal)
        ↔ ∃ place cause, document.Offends options.maxDepth place cause) := by
  have ends := document.trace_endsAtFirst lenient
  simp only [compile_error_iff_trace]
  exact ⟨fun fatal => ends.aborted_iff, ends.aborts_iff⟩

/-- A note that is cut short before its unknown child, a set that is one level deep, and an unknown
tag.
-/
def Document.offending : Document where
  config := none
  header := none
  elements := some (.array
    [.object
      [("tag", .string "note"),
        ("elements", .array
          [.object [("tag", .string "plain_text")], .object [("tag", .string "button")]])],
      .object
        [("tag", .string "column_set"),
          ("columns", .array
            [.object [("elements", .array [.object [("tag", .string "hr")]])]])],
      .object [("tag", .string "table")]])
  sourceId := 0

/-- With one level of nesting the first offence is the array in the set.  Witness: evaluation of
the compilation.
-/
theorem Document.offending_first
    : Level.off ≠ .error
      ∧ FirstOffence (offending.Offends 1)
          ((((Path.body.item 1).field "columns").item 0).field "elements")
          (.depthExceeded 1) := by
  have lenient : Level.off ≠ .error := by decide
  have failed
      : offending.compile { level := .off, maxDepth := 1 }
        = .error (.fatal (.depthExceeded 1)
            ((((Path.body.item 1).field "columns").item 0).field "elements") 0) := rfl
  obtain ⟨place, cause, first, same⟩ :=
    ((@compile_first_offence offending { level := .off, maxDepth := 1 } lenient).1 _).mp failed
  cases same
  exact ⟨lenient, first⟩

end MessageCard
