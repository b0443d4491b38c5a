import MessageCard.Proofs.DocumentRun
import MessageCard.Proofs.GrammarReading

/-! The strict level accepts exactly the documents of the grammar and builds exactly the trees
that they stand for.  A document of the grammar is built at every level; the strict level turns
every other document away at its first fault.
-/

namespace MessageCard

open Json

-----------------------------------------------------------------------------------------
-- Children of notes
-----------------------------------------------------------------------------------------

/-- A child in the grammar has a node, and is compiled to it without a report. -/
theorem Json.IsChild.compile {child : Json} (form : child.IsChild) (setting : Setting)
    (path : Path)
    : ∃ node,
        child.childNode? setting.options.locale = some node
        ∧ (Child.ofJson child).compile setting path = .done node := by
  cases form with
  | @text fields tag textual named content =>
      have filled : tag.name ≠ "" := by cases tag <;> decide
      simp only [childNode?, textOf_of_named named filled, ChildTag.ofName?_name,
        Child.ofJson_of_tag named]
      cases tag with
      | plainText =>
          simp only [Child.ofTagged, Child.content, stringField?_of_hasText content]
          exact ⟨_, rfl, rfl⟩
      | larkMd =>
          simp only [Child.ofTagged, Child.content, stringField?_of_hasText content]
          exact ⟨_, rfl, rfl⟩
      | img => exact (textual rfl).elim
  | @image fields named image =>
      rcases imageOfFields_cases fields with ⟨_, read⟩ | ⟨lacks, _⟩
      · simp only [childNode?, textOf_of_named named (by decide), ChildTag.ofName?_name,
          Child.ofJson_of_tag named, Child.ofTagged, read]
        exact ⟨_, rfl, rfl⟩
      · exact (lacks image).elim

/-- The children of a note in the grammar are built in order. -/
theorem Child.compileAll_of_children {setting : Setting} {children : List Json}
    (each : ∀ child ∈ children, child.IsChild) (path : Path)
    : (Child.compileAll setting path 0 (children.map Child.ofJson)).outcome
      = .done (children.filterMap (childNode? setting.options.locale)) := by
  rw [Child.compileAll_eq, Trace.inOrder_map_items]
  refine Trace.inOrder_filterMap _ (fun child member position => ?_) 0
  obtain ⟨node, known, built⟩ := (each child member).compile setting (path.item position)
  exact ⟨node, known, by rw [built]; rfl⟩

theorem Setting.fault_not_runs {α : Type} {setting : Setting}
    (strict : setting.options.level = .error) (fault : Fault) (path : Path)
    : ¬ (setting.fault fault path : Trace α).Runs := by
  intro runs
  exact runs _ (by simp only [Setting.fault, strict, Level.verdict]; rfl)

/-- A child that gets past the strict level is in the grammar; cases on how it is read. -/
theorem Child.isChild_of_runs {setting : Setting} (strict : setting.options.level = .error)
    {path : Path} {child : Json} (runs : ((Child.ofJson child).compile setting path).Runs)
    : child.IsChild := by
  rcases Child.reading child with
    ⟨_, read⟩ | ⟨fields, _, _, read⟩ | ⟨fields, tag, rfl, named, read⟩
  · rw [read] at runs
    exact (Setting.fault_not_runs strict _ path runs).elim
  · rw [read] at runs
    exact (Setting.abort_not_runs setting _ path runs).elim
  · rcases Child.ofTagged_cases named with form | ⟨_, fault, faulty⟩
    · exact form
    · rw [read, faulty] at runs
      exact (Setting.fault_not_runs strict fault path runs).elim

-----------------------------------------------------------------------------------------
-- Elements of the grammar are built at every level
-----------------------------------------------------------------------------------------

/-- The node of a column holds the nodes of its entries; the bookkeeping of the recursion is
gone.
-/
theorem columnNode_eq {column : Json} {entries : List Json} (locale : Option String)
    (shaped : column.columnEntries? = some entries)
    : columnNode locale column
      = (Node.new .column [Style.column]).withChildren
          (entries.filterMap (elementNode? locale)) := by
  have attached : column.entriesOf.attach.filterMap (fun entry => elementNode? locale entry.val)
      = column.entriesOf.filterMap (elementNode? locale) := by
    change column.entriesOf.attach.filterMap (elementNode? locale ∘ Subtype.val) = _
    rw [← List.filterMap_map, List.attach_map_subtype_val]
  rw [columnNode, attached, entriesOf, shaped, Option.getD_some]

/-- A list of entries that are built wherever they stand is built with their nodes. -/
theorem Element.compileAll_of_entries {setting : Setting} {level : Nat} {entries : List Json}
    (each
      : ∀ entry ∈ entries,
          ∀ path,
            ((Element.ofJson entry).compile setting path level).optional.outcome
              = .done (elementNode? setting.options.locale entry))
    (path : Path) (index : Nat)
    : (Element.compileAll setting path level index (entries.map Element.ofJson)).outcome
      = .done (entries.filterMap (elementNode? setting.options.locale)) := by
  refine Element.compileAll_done_iff.mpr
    ⟨entries.map (elementNode? setting.options.locale), ?_, ?_⟩
  · rw [Trace.inOrder_map_items, ← List.filterMap_eq_map]
    exact Trace.inOrder_filterMap _
      (fun entry member position => ⟨_, rfl, each entry member _⟩) index
  · rw [List.reduceOption, List.filterMap_map]
    rfl

/-- A column within the limit whose entries are built wherever they stand is built with their
nodes.
-/
theorem Column.compile_of_built {setting : Setting} {level : Nat} {column : Json}
    {entries : List Json} (shaped : column.columnEntries? = some entries)
    (within : entries ≠ [] → level + 1 ≤ setting.options.maxDepth)
    (each
      : ∀ entry ∈ entries,
          ∀ path,
            ((Element.ofJson entry).compile setting path (level + 1)).optional.outcome
              = .done (elementNode? setting.options.locale entry))
    (path : Path)
    : ((Column.ofJson column).compile setting path level).outcome
      = .done (columnNode setting.options.locale column) := by
  have inside : entries.map Element.ofJson ≠ [] → level + 1 ≤ setting.options.maxDepth :=
    fun occupied => within (by simpa using occupied)
  rw [Column.ofJson_of_entries shaped, Column.compile_elements inside, columnNode_eq _ shaped]
  exact Trace.map_done_iff.mpr ⟨_, Element.compileAll_of_entries each _ 0, rfl⟩

/-- An element of the grammar is built at every level of validation: it comes to the node it
stands for, or to nothing when it is deferred.  By induction on the derivation.
-/
theorem Json.IsElement.compile {limit level : Nat} {entry : Json}
    (form : entry.IsElement limit level) {setting : Setting}
    (bounded : setting.options.maxDepth = limit) (path : Path)
    : ((Element.ofJson entry).compile setting path level).optional.outcome
      = .done (elementNode? setting.options.locale entry) := by
  induction form generalizing path with
  | @deferred level fields tag deferred named =>
      have filled : tag.name ≠ "" := by cases tag <;> decide
      simp only [Element.ofJson_of_tag named, elementNode?, textOf_of_named named filled,
        ElementTag.ofName?_name]
      cases tag with
      | actions => rfl
      | markdown => rfl
      | _ => cases deferred
  | @div level fields named text =>
      rcases divOfFields_cases fields with ⟨_, read⟩ | ⟨lacks, _⟩
      · simp only [Element.ofJson_of_tag named, Element.ofTagged, read, Element.compile,
          elementNode?, textOf_of_named named (by decide), ElementTag.ofName?_name]
        rfl
      · exact (lacks text).elim
  | @hr level fields named =>
      simp only [Element.ofJson_of_tag named, Element.ofTagged, Element.compile, elementNode?,
        textOf_of_named named (by decide), ElementTag.ofName?_name]
      rfl
  | @img level fields named image width =>
      rcases imgOfFields_cases fields with ⟨_, read⟩ | ⟨lacks, _⟩
      · simp only [Element.ofJson_of_tag named, Element.ofTagged, read, Element.compile,
          elementNode?, textOf_of_named named (by decide), ElementTag.ofName?_name,
          Node.image, imageNode]
        cases (truthyField? fields "compact_width").isSome <;> rfl
      · exact (lacks ⟨image, width⟩).elim
  | @note level fields children named listed filled each =>
      have compiled := @Child.compileAll_of_children setting _ each (path.field "elements")
      have read : Element.ofTagged fields .note = .note (children.map Child.ofJson) := by
        simp only [Element.ofTagged, Element.noteOfFields,
          arrayField?_eq_some_iff.mpr ⟨listed, filled⟩]
      rw [Element.ofJson_of_tag named, read, Element.compile, Trace.optional_some_iff.mpr
        (Trace.map_done_iff.mpr ⟨_, compiled, rfl⟩)]
      simp only [elementNode?, textOf_of_named named (by decide), ElementTag.ofName?_name,
        itemsOf_of_listed listed filled]
  | @columnSet level fields columns named listed filled shaped within below ih =>
      have compiled : (Column.compileAll setting (path.field "columns") level 0
            (columns.map Column.ofJson)).outcome
          = .done (columns.map (columnNode setting.options.locale)) := by
        rw [Column.compileAll_eq, Trace.inOrder_map_items, ← List.filterMap_eq_map]
        refine Trace.inOrder_filterMap _ (fun column member position => ⟨_, rfl, ?_⟩) 0
        obtain ⟨entries, shape⟩ := shaped column member
        refine Column.compile_of_built shape (fun occupied => ?_) (ih column member entries shape) _
        rw [bounded]
        exact within column member entries shape occupied
      have read : Element.ofTagged fields .columnSet
          = .columnSet (columns.map Column.ofJson) := by
        simp only [Element.ofTagged, arrayField?_eq_some_iff.mpr ⟨listed, filled⟩]
      rw [Element.ofJson_of_tag named, read, Element.compile, Trace.optional_some_iff.mpr
        (Trace.map_done_iff.mpr ⟨_, compiled, rfl⟩)]
      simp only [elementNode?, textOf_of_named named (by decide), ElementTag.ofName?_name,
        itemsOf_of_listed listed filled, List.map_attach_eq_pmap, List.pmap_eq_map]

-----------------------------------------------------------------------------------------
-- What gets past the strict level is in the grammar
-----------------------------------------------------------------------------------------

/-- A child is never dropped at the strict level, by cases on how it was read. -/
theorem Child.compile_not_dropped {setting : Setting} (strict : setting.options.level = .error)
    (path : Path) (child : Child)
    : (child.compile setting path).outcome ≠ .dropped := by
  cases child with
  | faulty fault =>
      simp [Child.compile, Setting.fault, strict, Level.verdict, Trace.aborted]
  | unknown tag => simp [Child.compile, Setting.abort, Trace.aborted]
  | _ => simp [Child.compile, Trace.done]

theorem Column.compile_not_dropped {setting : Setting}
    (strict : setting.options.level = .error) (path : Path) (level : Nat) (column : Column)
    : (column.compile setting path level).outcome ≠ .dropped := by
  cases column with
  | faulty fault =>
      simp [Column.compile, Setting.fault, strict, Level.verdict, Trace.aborted]
  | elements items => exact Column.elements_not_dropped setting path level items

/-- The children of a note that gets past the strict level are all in the grammar. -/
theorem Child.all_isChild_of_runs {setting : Setting}
    (strict : setting.options.level = .error) {path : Path} {children : List Json}
    (runs : (Child.compileAll setting path 0 (children.map Child.ofJson)).Runs)
    : ∀ child ∈ children, child.IsChild := by
  intro child member
  rw [Child.compileAll_eq, Trace.inOrder_map_items] at runs
  obtain ⟨_, childRuns⟩ := Trace.inOrder_runs_at
    (fun _ _ => Child.compile_not_dropped strict _ _) runs member
  exact Child.isChild_of_runs strict childRuns

/-- A column that gets past the strict level has the shape of one. -/
theorem Column.shaped_of_runs {setting : Setting} (strict : setting.options.level = .error)
    {path : Path} {level : Nat} {column : Json}
    (runs : ((Column.ofJson column).compile setting path level).Runs)
    : ∃ entries, column.columnEntries? = some entries := by
  cases shape : column.columnEntries? with
  | some entries => exact ⟨entries, rfl⟩
  | none =>
      obtain ⟨fault, faulty⟩ := Column.ofJson_of_misshaped shape
      rw [faulty, Column.compile] at runs
      exact (Setting.fault_not_runs strict fault path runs).elim

/-- Every entry of a column that gets past the strict level does so itself, one level deeper. -/
theorem Column.entry_runs {setting : Setting} {path : Path} {level : Nat} {column entry : Json}
    {entries : List Json} (shaped : column.columnEntries? = some entries)
    (runs : ((Column.ofJson column).compile setting path level).Runs)
    (member : entry ∈ entries)
    : ∃ place, ((Element.ofJson entry).compile setting place (level + 1)).Runs := by
  rw [Column.ofJson_of_entries shaped] at runs
  rw [Column.compile_elements (Column.within_of_runs runs), Trace.map_runs_iff,
    Element.compileAll_eq, Trace.map_runs_iff, Trace.inOrder_map_items] at runs
  obtain ⟨_, entryRuns⟩ := Trace.inOrder_runs_at
    (fun _ _ => Trace.optional_not_dropped _) runs member
  exact ⟨_, Trace.optional_runs_iff.mp entryRuns⟩

/-- An element that gets past the strict level is in the grammar.  By recursion over the entry:
cases on how it is read, and for a set the entries of its columns.
-/
theorem Element.isElement_of_runs {setting : Setting}
    (strict : setting.options.level = .error) {path : Path} {level : Nat} (entry : Json)
    (runs : ((Element.ofJson entry).compile setting path level).Runs)
    : entry.IsElement setting.options.maxDepth level := by
  rcases Element.reading entry with
    ⟨fault, _, read⟩ | ⟨_, _, _, _, _, read⟩ | ⟨fields, tag, shaped, named, read⟩
  · rw [read] at runs
    exact (Setting.fault_not_runs strict fault path runs).elim
  · rw [read] at runs
    exact (Setting.abort_not_runs setting _ path runs).elim
  · rw [read] at runs
    rw [shaped]
    cases tag with
    | markdown => exact .deferred .markdown rfl named
    | actions => exact .deferred .actions rfl named
    | hr => exact .hr named
    | div =>
        rcases divOfFields_cases fields with ⟨has, _⟩ | ⟨_, fault, faulty⟩
        · exact .div named has
        · rw [Element.ofTagged, faulty] at runs
          exact (Setting.fault_not_runs strict fault path runs).elim
    | img =>
        rcases imgOfFields_cases fields with ⟨has, _⟩ | ⟨_, fault, faulty⟩
        · exact .img named has.1 has.2
        · rw [Element.ofTagged, faulty] at runs
          exact (Setting.fault_not_runs strict fault path runs).elim
    | note =>
        cases children : arrayField? fields "elements" with
        | none =>
            rw [Element.ofTagged, Element.noteOfFields, children] at runs
            exact (Setting.fault_not_runs strict _ path runs).elim
        | some items =>
            obtain ⟨listed, filled⟩ := arrayField?_eq_some_iff.mp children
            rw [Element.ofTagged, Element.noteOfFields, children, Element.compile,
              Trace.map_runs_iff] at runs
            exact .note named listed filled (Child.all_isChild_of_runs strict runs)
    | columnSet =>
        cases set : arrayField? fields "columns" with
        | none =>
            rw [Element.ofTagged, set] at runs
            exact (Setting.fault_not_runs strict _ path runs).elim
        | some columns =>
            obtain ⟨listed, filled⟩ := arrayField?_eq_some_iff.mp set
            rw [Element.ofTagged, set, Element.compile, Trace.map_runs_iff,
              Column.compileAll_eq, Trace.inOrder_map_items] at runs
            -- the strict level drops no column, so all of them are reached
            have columnRuns (column) (member : column ∈ columns)
                : ∃ place, ((Column.ofJson column).compile setting place level).Runs := by
              obtain ⟨_, ran⟩ := Trace.inOrder_runs_at
                (fun _ _ => Column.compile_not_dropped strict _ level _) runs member
              exact ⟨_, ran⟩
            refine .columnSet named listed filled ?shaped ?within ?below
            case shaped =>
              intro column member
              obtain ⟨_, ran⟩ := columnRuns column member
              exact Column.shaped_of_runs strict ran
            case within =>
              intro column member entries shape occupied
              obtain ⟨_, ran⟩ := columnRuns column member
              rw [Column.ofJson_of_entries shape] at ran
              exact Column.within_of_runs ran (by simpa using occupied)
            case below =>
              intro column member entries shape entry inside
              obtain ⟨_, ran⟩ := columnRuns column member
              obtain ⟨_, entryRuns⟩ := Column.entry_runs shape ran inside
              have smaller : sizeOf entry < sizeOf (Json.object fields) :=
                Nat.lt_trans (sizeOf_lt_of_entry shape inside) (sizeOf_lt_of_item listed member)
              exact Element.isElement_of_runs strict entry entryRuns
termination_by sizeOf entry
decreasing_by exact shaped ▸ smaller

end MessageCard
