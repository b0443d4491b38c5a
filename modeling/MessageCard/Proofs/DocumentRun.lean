import MessageCard.Compilation.Card
import MessageCard.Proofs.CardReading
import MessageCard.Proofs.OrderedTraces

/-! The run of a document.  Neither a body nor a card is ever dropped as a whole: a compilation
succeeds exactly when its header and its body come to results, and fails exactly when one of
them ends it.
-/

namespace MessageCard

/-- An outcome of which something is computed is a result, and it is computed of that. -/
theorem ok_of_toOption_map {ε α β : Type} {outcome : Except ε α} {f : α → β} {found : β}
    (computed : outcome.toOption.map f = some found)
    : ∃ result, outcome = .ok result ∧ f result = found := by
  cases outcome with
  | error error => cases computed
  | ok result => exact ⟨result, rfl, Option.some.inj computed⟩

/-- What stays the same while the document is compiled with the options. -/
def Document.setting (document : Document) (options : Options) : Setting :=
  { options, sourceId := document.sourceId }

/-- The compilation of the document with the options, step by step. -/
def Document.trace (document : Document) (options : Options) : Trace Node :=
  (Card.ofDocument document).compile (document.setting options)

/-- A list of elements is never dropped, by list induction: each element may be skipped. -/
theorem Element.compileAll_not_dropped (setting : Setting) (path : Path) (level index : Nat)
    (elements : List Element)
    : (Element.compileAll setting path level index elements).outcome ≠ .dropped := by
  induction elements generalizing index with
  | nil => simp [Element.compileAll, Trace.done]
  | cons element rest ih =>
      simp only [Element.compileAll]
      intro dropped
      rcases Trace.andThen_dropped_iff.mp dropped with first | ⟨_, _, later⟩
      · exact Trace.optional_not_dropped _ first
      · exact ih (index + 1) (Trace.map_dropped_iff.mp later)

/-- A list of elements on a level is not dropped either: a level too deep ends the compilation.
-/
theorem Element.atLevel_not_dropped (setting : Setting) (path : Path) (level : Nat)
    (elements : List Element)
    : (atLevel setting path level
        (Element.compileAll setting path level 0 elements)).outcome ≠ .dropped := by
  simp only [atLevel]
  split
  · simp [Setting.abort, Trace.aborted]
  · exact Element.compileAll_not_dropped setting path level 0 elements

/-- A column with elements is not dropped: its elements may be skipped, one by one. -/
theorem Column.elements_not_dropped (setting : Setting) (path : Path) (level : Nat)
    (elements : List Element)
    : ((Column.elements elements).compile setting path level).outcome ≠ .dropped := by
  cases elements with
  | nil => simp [Column.compile, Trace.done]
  | cons first rest =>
      rw [Column.compile, ne_eq, Trace.map_dropped_iff]
      exact Element.atLevel_not_dropped setting _ (level + 1) (first :: rest)

/-- A column that comes to a node has the shape of one. -/
theorem Column.shaped_of_done {setting : Setting} {path : Path} {level : Nat} {column : Json}
    {node : Node}
    (ended : ((Column.ofJson column).compile setting path level).outcome = .done node)
    : ∃ entries, column.columnEntries? = some entries := by
  cases shape : column.columnEntries? with
  | some entries => exact ⟨entries, rfl⟩
  | none =>
      obtain ⟨fault, faulty⟩ := Column.ofJson_of_misshaped shape
      rw [faulty] at ended
      exact (Setting.fault_not_done ended).elim

/-- A value that has items is an array of them. -/
theorem array_of_bind {elements : Option Json} {entries : List Json}
    (found : elements.bind Json.array? = some entries)
    : elements = some (.array entries) := by
  obtain ⟨value, rfl, items⟩ := Option.bind_eq_some_iff.mp found
  cases value with
  | array _ => rw [Option.some.inj items]
  | _ => cases items

/-- A body that is an array is compiled as its elements are. -/
theorem Body.compile_of_array (setting : Setting) (entries : List Json)
    : (Body.ofJson (some (.array entries))).compile setting
      = atLevel setting Path.body 1
          (Element.compileAll setting Path.body 1 0 (entries.map Element.ofJson)) := by
  simp only [Body.ofJson, Body.compile, Body.check, Trace.done_andThen, Body.items,
    Element.listOfJson_eq_map]

/-- A body that is no array is read as faulty, by cases on the value. -/
theorem Body.ofJson_of_not_array {elements : Option Json}
    (missing : elements.bind Json.array? = none)
    : ∃ fault, Body.ofJson elements = .faulty fault := by
  rcases elements with _ | value
  · exact ⟨_, rfl⟩
  · cases value with
    | array items => simp [Json.array?] at missing
    | _ => exact ⟨_, rfl⟩

/-- A body with a result is within the limit, and its result is that of its entries; a faulty body
has none.
-/
theorem Body.compileAll_of_done {setting : Setting} {elements : Option Json}
    {nodes : List Node}
    (ended : ((Body.ofJson elements).compile setting).outcome = .done nodes)
    : 1 ≤ setting.options.maxDepth
      ∧ (Element.compileAll setting Path.body 1 0
            (((elements.bind Json.array?).getD []).map Element.ofJson)).outcome
          = .done nodes := by
  have below
      : (atLevel setting Path.body 1
          (Element.compileAll setting Path.body 1 0
            (((elements.bind Json.array?).getD []).map Element.ofJson))).outcome
        = .done nodes := by
    cases found : elements.bind Json.array? with
    | none =>
        obtain ⟨fault, faulty⟩ := Body.ofJson_of_not_array found
        rw [faulty] at ended
        obtain ⟨_, _, below⟩ := Trace.andThen_done_iff.mp ended
        exact below
    | some entries =>
        obtain rfl := array_of_bind found
        rwa [Body.compile_of_array] at ended
  have within := le_of_atLevel_runs (Trace.runs_of_done below)
  rw [atLevel_of_le within] at below
  exact ⟨within, below⟩

/-- A body is never dropped: its own fault leaves it without elements. -/
theorem Body.compile_not_dropped (setting : Setting) (body : Body)
    : (body.compile setting).outcome ≠ .dropped := by
  intro dropped
  rcases Trace.andThen_dropped_iff.mp dropped with checked | ⟨_, _, below⟩
  · cases body with
    | faulty fault => exact Trace.optional_not_dropped _ checked
    | elements items => simp [Body.check, Trace.done] at checked
  · exact Element.atLevel_not_dropped setting Path.body 1 body.items below

/-- A header that is dropped leaves no node, so that the header as a part is never dropped. -/
theorem Header.compileOptional_not_dropped (setting : Setting) (header : Option Header)
    : (Header.compileOptional setting header).outcome ≠ .dropped := by
  cases header with
  | none => simp [Header.compileOptional, Trace.done]
  | some header => exact Trace.optional_not_dropped _

/-- A card is never dropped, since neither of its sections is. -/
theorem Card.compile_not_dropped (setting : Setting) (card : Card)
    : (card.compile setting).outcome ≠ .dropped := by
  intro dropped
  rcases Trace.andThen_dropped_iff.mp dropped with header | ⟨_, _, body⟩
  · exact Header.compileOptional_not_dropped setting card.header header
  · exact card.body.compile_not_dropped setting (Trace.map_dropped_iff.mp body)

/-- A compilation succeeds exactly with the result and the reports of its run. -/
theorem Document.compile_ok_iff_trace {document : Document} {options : Options}
    {compilation : Compilation}
    : document.compile options = .ok compilation
      ↔ (document.trace options).outcome = .done compilation.tree
        ∧ (document.trace options).recorded = compilation.warnings := by
  have never : (document.trace options).outcome ≠ .dropped :=
    Card.compile_not_dropped (document.setting options) (Card.ofDocument document)
  change (document.trace options).compilation = _ ↔ _
  generalize document.trace options = trace at never
  rcases trace with ⟨reports, outcome⟩
  rcases compilation with ⟨tree, warnings⟩
  cases outcome with
  | done result => simp [Trace.compilation]
  | dropped => exact (never rfl).elim
  | aborted fatal => simp [Trace.compilation]

/-- A compilation fails exactly with the report that ends its run. -/
theorem Document.compile_error_iff_trace {document : Document} {options : Options}
    {fatal : Diagnostic}
    : document.compile options = .error fatal
      ↔ (document.trace options).outcome = .aborted fatal := by
  change (document.trace options).compilation = _ ↔ _
  rcases document.trace options with ⟨reports, outcome⟩
  cases outcome <;> simp [Trace.compilation]

/-- A compilation succeeds exactly when both sections come to results; its tree and its
warnings are made of theirs.
-/
theorem Document.compile_ok_iff {document : Document} {options : Options}
    {compilation : Compilation}
    : document.compile options = .ok compilation
      ↔ ∃ header nodes,
          (Header.compileOptional (document.setting options)
              (Card.ofDocument document).header).outcome
            = .done header
          ∧ ((Card.ofDocument document).body.compile (document.setting options)).outcome
            = .done nodes
          ∧ compilation.tree = Node.card header nodes
          ∧ compilation.warnings
            = (Header.compileOptional (document.setting options)
                (Card.ofDocument document).header).recorded
              ++ ((Card.ofDocument document).body.compile
                (document.setting options)).recorded := by
  rw [compile_ok_iff_trace, Document.trace, Card.compile, Trace.andThen_done_iff]
  constructor
  · rintro ⟨⟨header, headed, body⟩, recorded⟩
    obtain ⟨nodes, below, tree⟩ := Trace.map_done_iff.mp body
    rw [Trace.andThen_recorded _ headed, Trace.map_recorded] at recorded
    exact ⟨header, nodes, headed, below, tree.symm, recorded.symm⟩
  · rintro ⟨header, nodes, headed, below, tree, recorded⟩
    refine ⟨⟨header, headed, Trace.map_done_iff.mpr ⟨nodes, below, tree.symm⟩⟩, ?_⟩
    rw [Trace.andThen_recorded _ headed, Trace.map_recorded, recorded]

/-- A compilation that runs to its end does so in both sections, and reports what they report. -/
theorem Document.trace_of_runs {document : Document} {options : Options}
    (runs : (document.trace options).Runs)
    : (Header.compileOptional (document.setting options)
          (Card.ofDocument document).header).Runs
      ∧ ((Card.ofDocument document).body.compile (document.setting options)).Runs
      ∧ (document.trace options).recorded
        = (Header.compileOptional (document.setting options)
            (Card.ofDocument document).header).recorded
          ++ ((Card.ofDocument document).body.compile
            (document.setting options)).recorded := by
  rw [Document.trace, Card.compile, Trace.andThen_runs_iff] at runs
  obtain ⟨headerRuns, bodyRuns⟩ := runs
  obtain ⟨node, ended⟩ := Trace.done_of_runs headerRuns
    (Header.compileOptional_not_dropped _ _)
  refine ⟨headerRuns, Trace.map_runs_iff.mp (bodyRuns node ended), ?_⟩
  rw [Document.trace, Card.compile, Trace.andThen_recorded _ ended, Trace.map_recorded]

end MessageCard
