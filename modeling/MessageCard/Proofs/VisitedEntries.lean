import MessageCard.Proofs.ReportPlaces

/-! The entries that a compilation visits, and what it reports about each of them.  The reports
of the whole run that lie in a visited entry are exactly the reports of that entry's own
compilation, and every report about the body is about a visited entry.
-/

namespace MessageCard

open Json

/-- The elements of a column of the set that the path leads to. -/
def Path.columnElements (path : Path) (column : Nat) : Path :=
  ((path.field "columns").item column).field "elements"

/-- The entry is visited at a place and on a level: it is an entry of the body, or an entry of a
column of a visited set that no misshaped column precedes.
-/
inductive Document.Visited (document : Document) : Path → Nat → Json → Prop
  | top {entries : List Json} {position : Nat} {entry : Json}
    (body : document.elements = some (.array entries))
    (listed : entries[position]? = some entry)
    : Visited document (Path.body.item position) 1 entry
  | column {path : Path} {level : Nat} {fields : Fields} {columns : List Json}
    {column : Nat} {entries : List Json} {position : Nat} {entry : Json}
    (set : Visited document path level (.object fields))
    (named : field? fields "tag" = some (.string ElementTag.columnSet.name))
    (columnsListed : field? fields "columns" = some (.array columns))
    (shaped
      : ∀ earlier < column, ∀ other,
          columns[earlier]? = some other → ∃ others, other.columnEntries? = some others)
    (columnListed : columns[column]?.bind columnEntries? = some entries)
    (listed : entries[position]? = some entry)
    : Visited document ((path.columnElements column).item position) (level + 1) entry

/-- What the entry comes to where it stands. -/
def Setting.entry (setting : Setting) (path : Path) (level : Nat) (entry : Json) : Trace Node :=
  (Element.ofJson entry).compile setting path level

/-- An element with the tag of a set is compiled column by column. -/
theorem Setting.entry_of_columns {setting : Setting} {fields : Fields} {columns : List Json}
    (named : field? fields "tag" = some (.string ElementTag.columnSet.name))
    (listed : field? fields "columns" = some (.array columns)) (filled : columns ≠ [])
    (path : Path) (level : Nat)
    : setting.entry path level (.object fields)
      = (Trace.inOrder
            (fun position column =>
              (Column.ofJson column).compile setting ((path.field "columns").item position)
                level)
            0 columns).map
          (Node.element .columnSet).withChildren := by
  rw [Setting.entry, Element.ofJson_of_tag named, Element.ofTagged]
  simp only [arrayField?_eq_some_iff.mpr ⟨listed, filled⟩, Element.compile,
    Column.compileAll_eq, Trace.inOrder_map_items]

/-- A column of the right shape is compiled entry by entry, if it runs to its end. -/
theorem Column.compile_of_entries {setting : Setting} {path : Path} {level : Nat}
    {column : Json} {entries : List Json} (shaped : column.columnEntries? = some entries)
    (runs : ((Column.ofJson column).compile setting path level).Runs)
    : (Column.ofJson column).compile setting path level
      = ((Trace.inOrder
              (fun position entry =>
                (setting.entry ((path.field "elements").item position) (level + 1)
                  entry).optional)
              0 entries).map
            List.reduceOption).map
          (Node.new .column [Style.column]).withChildren := by
  rw [Column.ofJson_of_entries shaped] at runs ⊢
  rw [Column.compile_elements (Column.within_of_runs runs), Element.compileAll_eq,
    Trace.inOrder_map_items]
  rfl

-----------------------------------------------------------------------------------------
-- The reports that lie in an entry
-----------------------------------------------------------------------------------------

/-- The reports of a header lie in the header, so none of them lies in the body. -/
theorem header_filter_within (setting : Setting) (header : Option Header) (position : Nat)
    : (Header.compileOptional setting header).recorded.filter
        (Diagnostic.within (Path.body.item position)) = [] := by
  rw [List.filter_eq_nil_iff]
  intro report member inside
  obtain ⟨place, found, held⟩ := (Header.compileOptional_placed setting header).place member
  obtain ⟨again, foundAgain, heldAgain⟩ := Diagnostic.within_iff.mp inside
  obtain rfl : place = again := Option.some.inj (found.symm.trans foundAgain)
  exact place.before_irrefl (Path.before_of_sections held (Path.holds_of_item heldAgain))

/-- In a body that runs to its end, the reports in an entry are those of the entry. -/
theorem Body.reports_within {setting : Setting} {entries : List Json}
    (runs : ((Body.ofJson (some (.array entries))).compile setting).Runs) {position : Nat}
    {entry : Json} (listed : entries[position]? = some entry)
    : ((Body.ofJson (some (.array entries))).compile setting).recorded.filter
          (Diagnostic.within (Path.body.item position))
        = (setting.entry (Path.body.item position) 1 entry).recorded
      ∧ (setting.entry (Path.body.item position) 1 entry).Runs := by
  rw [Body.compile_of_array] at runs ⊢
  have within := le_of_atLevel_runs runs
  rw [atLevel_of_le within, Element.compileAll_eq, Trace.inOrder_map_items] at runs ⊢
  obtain ⟨own, ownRuns⟩ := Trace.inOrder_within Path.body
    (fun _ entry => (Element.compile_placed _ _ 1 (Element.ofJson entry)).optional)
    (Trace.map_runs_iff.mp runs) listed (fun _ _ _ _ => Trace.optional_not_dropped _)
  rw [Trace.optional_recorded] at own
  rw [Trace.map_recorded]
  exact ⟨own, Trace.optional_runs_iff.mp ownRuns⟩

/-- In a set that runs to its end, the reports in a column are those of the column, if no column
before it is misshaped.
-/
theorem Setting.set_reports_within {setting : Setting} {path : Path} {level : Nat}
    {fields : Fields} {columns : List Json} {position : Nat} {column : Json}
    (runs : (setting.entry path level (.object fields)).Runs)
    (named : field? fields "tag" = some (.string ElementTag.columnSet.name))
    (columnsListed : field? fields "columns" = some (.array columns))
    (shaped
      : ∀ earlier < position, ∀ other,
          columns[earlier]? = some other → ∃ others, other.columnEntries? = some others)
    (listed : columns[position]? = some column)
    : (setting.entry path level (.object fields)).recorded.filter
          (Diagnostic.within ((path.field "columns").item position))
        = ((Column.ofJson column).compile setting ((path.field "columns").item position)
            level).recorded
      ∧ ((Column.ofJson column).compile setting ((path.field "columns").item position)
          level).Runs := by
  have filled : columns ≠ [] := List.ne_nil_of_mem (List.mem_of_getElem? listed)
  rw [Setting.entry_of_columns named columnsListed filled] at runs ⊢
  rw [Trace.map_recorded]
  refine Trace.inOrder_within (path.field "columns")
    (fun _ column => Column.compile_placed _ _ level (Column.ofJson column))
    (Trace.map_runs_iff.mp runs) listed ?_
  intro earlier before other otherListed
  obtain ⟨others, otherShaped⟩ := shaped earlier before other otherListed
  rw [Column.ofJson_of_entries otherShaped]
  exact Column.elements_not_dropped _ _ level _

/-- In a column that runs to its end, the reports in an entry are those of the entry. -/
theorem Column.reports_within {setting : Setting} {path : Path} {level : Nat} {column : Json}
    {entries : List Json} {position : Nat} {entry : Json}
    (runs : ((Column.ofJson column).compile setting path level).Runs)
    (shaped : column.columnEntries? = some entries) (listed : entries[position]? = some entry)
    : ((Column.ofJson column).compile setting path level).recorded.filter
          (Diagnostic.within ((path.field "elements").item position))
        = (setting.entry ((path.field "elements").item position) (level + 1) entry).recorded
      ∧ (setting.entry ((path.field "elements").item position) (level + 1) entry).Runs := by
  have built := Column.compile_of_entries shaped runs
  rw [built] at runs ⊢
  rw [Trace.map_runs_iff, Trace.map_runs_iff] at runs
  obtain ⟨own, ownRuns⟩ := Trace.inOrder_within (path.field "elements")
    (fun _ entry => (Element.compile_placed _ _ (level + 1) (Element.ofJson entry)).optional)
    runs listed (fun _ _ _ _ => Trace.optional_not_dropped _)
  rw [Trace.optional_recorded] at own
  rw [Trace.map_recorded, Trace.map_recorded]
  exact ⟨own, Trace.optional_runs_iff.mp ownRuns⟩

/-- In a run to the end, the reports in a visited entry are those of the entry's own compilation,
which runs to its end too.  By induction on the visit, from the outside in.
-/
theorem Document.Visited.reports_within {document : Document} {options : Options}
    (runs : (document.trace options).Runs) {path : Path} {level : Nat} {entry : Json}
    (visited : document.Visited path level entry)
    : (document.trace options).recorded.filter (Diagnostic.within path)
        = ((document.setting options).entry path level entry).recorded
      ∧ ((document.setting options).entry path level entry).Runs := by
  induction visited with
  | @top entries position entry body listed =>
      obtain ⟨_, bodyRuns, recorded⟩ := Document.trace_of_runs runs
      have read : (Card.ofDocument document).body = Body.ofJson (some (.array entries)) :=
        congrArg Body.ofJson body
      rw [recorded, List.filter_append, header_filter_within, List.nil_append]
      rw [read] at bodyRuns ⊢
      exact Body.reports_within bodyRuns listed
  | @column path level fields columns column entries position entry set named columnsListed
      shaped columnListed listed ih =>
      obtain ⟨outer, outerRuns⟩ := ih
      obtain ⟨value, valueListed, valueShaped⟩ := Option.bind_eq_some_iff.mp columnListed
      obtain ⟨middle, middleRuns⟩ :=
        Setting.set_reports_within outerRuns named columnsListed shaped valueListed
      obtain ⟨inner, innerRuns⟩ := Column.reports_within middleRuns valueShaped listed
      refine ⟨?_, innerRuns⟩
      have inColumn (place : Path)
          (held : ((path.columnElements column).item position).holds place = true)
          : ((path.field "columns").item column).holds place = true :=
        Path.holds_of_field (Path.holds_of_item held)
      have inSet (place : Path)
          (held : ((path.columnElements column).item position).holds place = true)
          : path.holds place = true :=
        Path.holds_of_field (Path.holds_of_item (inColumn place held))
      -- narrow the reports down to the set, then to its column, then to the entry
      rw [← Diagnostic.filter_within inSet, outer, ← Diagnostic.filter_within inColumn, middle]
      exact inner

end MessageCard
