import MessageCard.Proofs.GrammarReading
import MessageCard.Proofs.VisitedEntries

/-! The classes of reports.  What a compilation records are warnings, and what ends it is fatal; the
level of validation decides which of the two a violation becomes, and no other cause can be both.  A
text that is no document is refused as a whole, before any part of it is compiled.
-/

namespace MessageCard

open Json

-----------------------------------------------------------------------------------------
-- Causes of warnings and of failures
-----------------------------------------------------------------------------------------

/-- The cause may be warned of: a tag that is deferred, or a violation at the lenient level. -/
def Cause.Warns (options : Options) : Cause → Prop
  | notImplemented tag => tag = "actions" ∨ tag = "markdown"
  | schemaViolation _ => options.level = .warning
  | _ => False

/-- The cause may end a compilation: a violation at the strict level, an unknown tag, or the limit
of nesting.
-/
def Cause.Fails (options : Options) : Cause → Prop
  | schemaViolation _ => options.level = .error
  | unknownTag _ _ _ => True
  | depthExceeded limit => limit = options.maxDepth
  | _ => False

/-- The report is about a place in a document of the source. -/
structure Diagnostic.About (sourceId : Nat) (report : Diagnostic) : Prop where
  source : report.sourceId = sourceId
  path : ∃ path, report.path = some path
  span : report.span = none
  notes : report.notes = []

/-- The report is one that a compilation may record. -/
structure Diagnostic.IsWarning (options : Options) (sourceId : Nat) (report : Diagnostic) : Prop
    extends report.About sourceId where
  isWarning : report.isWarning = true
  cause : report.cause.Warns options

/-- The report is one that may end a compilation. -/
structure Diagnostic.IsFailure (options : Options) (sourceId : Nat) (report : Diagnostic) : Prop
    extends report.About sourceId where
  isWarning : report.isWarning = false
  cause : report.cause.Fails options

-----------------------------------------------------------------------------------------
-- Traces with reports of their classes
-----------------------------------------------------------------------------------------

namespace Trace

variable {α β : Type} {options : Options} {sourceId : Nat}

/-- The trace records warnings, and a report that ends it is a failure. -/
structure Classed (options : Options) (sourceId : Nat) (trace : Trace α) : Prop where
  recorded : ∀ report ∈ trace.recorded, report.IsWarning options sourceId
  ended : ∀ fatal, trace.outcome = .aborted fatal → fatal.IsFailure options sourceId

theorem Classed.of_done (result : α) : (done result).Classed options sourceId :=
  ⟨fun _ member => (by cases member), fun _ ended => (by cases ended)⟩

/-- A sequence has reports of their classes when both parts have; cases on how the first ends. -/
theorem Classed.andThen {trace : Trace α} {next : α → Trace β}
    (first : trace.Classed options sourceId)
    (second : ∀ result, (next result).Classed options sourceId)
    : (trace.andThen next).Classed options sourceId := by
  rcases trace with ⟨recorded, outcome⟩
  cases outcome with
  | done result =>
      refine ⟨fun report member => ?_, (second result).ended⟩
      rcases List.mem_append.mp member with own | later
      · exact first.recorded report own
      · exact (second result).recorded report later
  | dropped => exact ⟨first.recorded, fun _ ended => (by cases ended)⟩
  | aborted fatal =>
      refine ⟨first.recorded, fun other ended => ?_⟩
      cases ended
      exact first.ended fatal rfl

theorem Classed.map {trace : Trace α} (classed : trace.Classed options sourceId) (f : α → β)
    : (trace.map f).Classed options sourceId :=
  classed.andThen fun result => .of_done (f result)

theorem Classed.optional {trace : Trace α} (classed : trace.Classed options sourceId)
    : trace.optional.Classed options sourceId := by
  rcases trace with ⟨recorded, outcome⟩
  cases outcome with
  | done result => exact ⟨classed.recorded, fun _ ended => (by cases ended)⟩
  | dropped => exact ⟨classed.recorded, fun _ ended => (by cases ended)⟩
  | aborted fatal =>
      refine ⟨classed.recorded, fun other ended => ?_⟩
      cases ended
      exact classed.ended fatal rfl

/-- A traversal has reports of their classes when its items have, by list induction. -/
theorem inOrder_classed {each : Nat → α → Trace β} {items : List α}
    (classed : ∀ item ∈ items, ∀ position, (each position item).Classed options sourceId)
    (index : Nat)
    : (inOrder each index items).Classed options sourceId := by
  induction items generalizing index with
  | nil => exact .of_done []
  | cons item rest ih =>
      have later := ih (fun other member => classed other (by simp [member])) (index + 1)
      exact (classed item (by simp) index).andThen fun result => later.map (result :: ·)

end Trace

-----------------------------------------------------------------------------------------
-- Compilations report by class
-----------------------------------------------------------------------------------------

section Compilations

variable {α : Type} (setting : Setting) (path : Path)

/-- A fault is recorded or ends the compilation as the level says, and is of its class either way. -/
theorem Setting.fault_classed (fault : Fault)
    : (setting.fault fault path : Trace α).Classed setting.options setting.sourceId := by
  have about (isWarning : Bool)
      : Diagnostic.About setting.sourceId
          { cause := .schemaViolation fault.message, path := some path, span := none,
            sourceId := setting.sourceId, isWarning, notes := [] } :=
    ⟨rfl, ⟨path, rfl⟩, rfl, rfl⟩
  rw [Setting.fault]
  cases level : setting.options.level with
  | off => exact ⟨fun _ member => (by cases member), fun _ ended => (by cases ended)⟩
  | warning =>
      refine ⟨fun report member => ?_, fun _ ended => (by cases ended)⟩
      obtain rfl := List.mem_singleton.mp member
      exact ⟨about true, rfl, level⟩
  | error =>
      refine ⟨fun _ member => (by cases member), fun fatal ended => ?_⟩
      cases ended
      exact ⟨about false, rfl, level⟩

theorem Setting.abort_classed {cause : Cause} (fails : cause.Fails setting.options)
    : (setting.abort cause path : Trace α).Classed setting.options setting.sourceId := by
  refine ⟨fun _ member => (by cases member), fun fatal ended => ?_⟩
  cases ended
  exact ⟨⟨rfl, ⟨path, rfl⟩, rfl, rfl⟩, rfl, fails⟩

/-- The notice of a deferred tag is a warning at every level. -/
theorem Setting.defer_classed {tag : ElementTag} (deferred : tag.isDeferred = true)
    : (setting.defer tag path : Trace α).Classed setting.options setting.sourceId := by
  refine ⟨fun report member => ?_, fun _ ended => (by cases ended)⟩
  obtain rfl := List.mem_singleton.mp member
  refine ⟨⟨rfl, ⟨path, rfl⟩, rfl, rfl⟩, rfl, ?_⟩
  cases tag with
  | actions => exact Or.inl rfl
  | markdown => exact Or.inr rfl
  | _ => cases deferred

theorem atLevel_classed {trace : Trace α}
    (classed : trace.Classed setting.options setting.sourceId) (level : Nat)
    : (atLevel setting path level trace).Classed setting.options setting.sourceId := by
  rw [atLevel]
  split
  · exact setting.abort_classed path rfl
  · exact classed

theorem Child.compile_classed (child : Child)
    : (child.compile setting path).Classed setting.options setting.sourceId := by
  cases child with
  | faulty fault => exact setting.fault_classed path fault
  | unknown tag => exact setting.abort_classed path trivial
  | _ => exact .of_done _

/-- Entries on a level have reports of their classes when each of them has. -/
theorem Element.compileAll_classed (level : Nat) {entries : List Json}
    (each
      : ∀ entry ∈ entries, ∀ place,
          (setting.entry place level entry).Classed setting.options setting.sourceId)
    : (atLevel setting path level
          (Element.compileAll setting path level 0 (entries.map Element.ofJson))).Classed
        setting.options setting.sourceId := by
  rw [Element.compileAll_eq, Trace.inOrder_map_items]
  refine atLevel_classed setting path (Trace.Classed.map ?_ _) level
  exact Trace.inOrder_classed (fun entry member position => (each entry member _).optional) 0

/-- A column has reports of their classes when its entries have, by cases on its shape. -/
theorem Column.compile_classed (level : Nat) {column : Json}
    (each
      : ∀ entries,
          column.columnEntries? = some entries
          → ∀ entry ∈ entries, ∀ place,
              (setting.entry place (level + 1) entry).Classed setting.options setting.sourceId)
    : ((Column.ofJson column).compile setting path level).Classed setting.options
        setting.sourceId := by
  cases shape : column.columnEntries? with
  | none =>
      obtain ⟨fault, faulty⟩ := Column.ofJson_of_misshaped shape
      rw [faulty]
      exact setting.fault_classed path fault
  | some entries =>
      rw [Column.ofJson_of_entries shape]
      cases entries with
      | nil => exact .of_done _
      | cons first rest =>
          rw [List.map_cons, Column.compile, ← List.map_cons]
          exact (Element.compileAll_classed setting _ (level + 1) (each _ shape)).map _

/-- An entry whose tag is neither that of notes nor of sets has reports of their classes, by cases
on the tag.
-/
theorem Element.ofTagged_classed {fields : Fields} {tag : ElementTag} (level : Nat)
    (notNote : tag ≠ .note) (notSet : tag ≠ .columnSet)
    : ((Element.ofTagged fields tag).compile setting path level).Classed setting.options
        setting.sourceId := by
  cases tag with
  | note => exact (notNote rfl).elim
  | columnSet => exact (notSet rfl).elim
  | hr => exact .of_done _
  | actions => exact setting.defer_classed path rfl
  | markdown => exact setting.defer_classed path rfl
  | div =>
      rcases divOfFields_cases fields with ⟨_, read⟩ | ⟨_, fault, faulty⟩
      · rw [Element.ofTagged, read]
        exact .of_done _
      · rw [Element.ofTagged, faulty]
        exact setting.fault_classed path fault
  | img =>
      rcases imgOfFields_cases fields with ⟨_, read⟩ | ⟨_, fault, faulty⟩
      · rw [Element.ofTagged, read]
        exact .of_done _
      · rw [Element.ofTagged, faulty]
        exact setting.fault_classed path fault

/-- Every entry has reports of their classes.  By recursion over the entry: cases on how it is read,
and for a set the entries of its columns.
-/
theorem Setting.entry_classed (path : Path) (level : Nat) (entry : Json)
    : (setting.entry path level entry).Classed setting.options setting.sourceId := by
  rcases Element.reading entry with
    ⟨fault, _, read⟩ | ⟨_, _, _, _, _, read⟩ | ⟨fields, tag, shape, named, read⟩
  · rw [Setting.entry, read]
    exact setting.fault_classed path fault
  · rw [Setting.entry, read]
    exact setting.abort_classed path trivial
  · by_cases isNote : tag = .note
    · subst isNote
      rw [Setting.entry, read, Element.ofTagged, Element.noteOfFields]
      split
      · simp only [Element.compile, Child.compileAll_eq]
        exact (Trace.inOrder_classed
          (fun child _ position => child.compile_classed setting _) 0).map _
      · exact setting.fault_classed path _
    by_cases isSet : tag = .columnSet
    · subst isSet
      cases set : arrayField? fields "columns" with
      | none =>
          rw [Setting.entry, read, Element.ofTagged, set]
          exact setting.fault_classed path _
      | some columns =>
          obtain ⟨listed, filled⟩ := arrayField?_eq_some_iff.mp set
          rw [shape, Setting.entry_of_columns named listed filled]
          refine (Trace.inOrder_classed (fun column member position => ?_) 0).map _
          refine Column.compile_classed setting _ level fun entries shaped other inside place => ?_
          have smaller : sizeOf other < sizeOf entry := by
            rw [shape]
            exact Nat.lt_trans (sizeOf_lt_of_entry shaped inside)
              (sizeOf_lt_of_item listed member)
          exact Setting.entry_classed place (level + 1) other
    · rw [Setting.entry, read]
      exact Element.ofTagged_classed setting path level isNote isSet
termination_by sizeOf entry

theorem Header.compileOptional_classed (header : Option Header)
    : (Header.compileOptional setting header).Classed setting.options setting.sourceId := by
  rcases header with _ | (fault | ⟨template, title⟩)
  · exact .of_done none
  · exact (setting.fault_classed Path.header fault).optional
  · exact .of_done _

/-- A body has reports of their classes: those of its own fault, or those of its entries. -/
theorem Body.compile_classed (elements : Option Json)
    : ((Body.ofJson elements).compile setting).Classed setting.options setting.sourceId := by
  cases found : elements.bind array? with
  | none =>
      obtain ⟨fault, faulty⟩ := Body.ofJson_of_not_array found
      rw [faulty]
      exact (setting.fault_classed Path.body fault).optional.andThen fun _ =>
        atLevel_classed setting Path.body (.of_done []) 1
  | some entries =>
      rw [array_of_bind found, Body.compile_of_array]
      exact Element.compileAll_classed setting Path.body 1 fun entry _ place =>
        setting.entry_classed place 1 entry

end Compilations

/-- Whatever a run reports is of its class, at every level of validation. -/
theorem Document.trace_classed (document : Document) (options : Options)
    : (document.trace options).Classed options document.sourceId :=
  (Header.compileOptional_classed (document.setting options) _).andThen fun node =>
    (Body.compile_classed (document.setting options) document.elements).map (Node.card node)

-----------------------------------------------------------------------------------------
-- Texts that are no documents
-----------------------------------------------------------------------------------------

theorem utf8_length (text : List Char) : (utf8 text).length = utf8Length text := by
  induction text with
  | nil => rfl
  | cons c text ih =>
      rw [utf8, List.flatMap_cons, List.length_append, String.length_utf8EncodeChar, ← utf8, ih]
      rfl

/-- The bytes of the characters of a text are the bytes of the text, by induction over them. -/
theorem utf8Length_toList (text : String) : utf8Length text.toList = text.utf8ByteSize := by
  suffices ∀ characters, utf8Length characters = (String.ofList characters).utf8ByteSize by
    rw [this, String.ofList_toList]
  intro characters
  induction characters with
  | nil => rfl
  | cons c characters ih =>
      rw [String.ofList_cons, String.utf8ByteSize_append, String.utf8ByteSize_singleton, ← ih]
      rfl

/-- The offset of a position is within the text. -/
theorem Position.offset_le (bytes : List UInt8) (position : Position)
    : position.offset bytes ≤ bytes.length := by
  rw [offset]
  split
  · exact Nat.le_refl _
  · exact Nat.min_le_right _ _

theorem utf8Length_append (text other : List Char)
    : utf8Length (text ++ other) = utf8Length text + utf8Length other := by
  induction text with
  | nil => simp [utf8Length, total]
  | cons c text ih =>
      have first (rest : List Char) : utf8Length (c :: rest) = c.utf8Size + utf8Length rest := rfl
      rw [List.cons_append, first, ih, first, Nat.add_assoc]

theorem utf8Length_mono {text other : List Char} (first : other <+: text)
    : utf8Length other ≤ utf8Length text := by
  obtain ⟨rest, rfl⟩ := first
  rw [utf8Length_append]
  exact Nat.le_add_right _ _

/-- A text without the blanks at its end is the start of the text. -/
theorem trimRight_starts (text : List Char) : Text.trimRight text <+: text := by
  have kept : Text.trimRight text <+: text.reverse.reverse :=
    List.reverse_prefix.mpr (List.dropWhile_suffix Text.isBlank)
  rwa [List.reverse_reverse] at kept

/-- The text is that of a document: it is JSON, and an object. -/
def IsDocumentText (source : String) : Prop :=
  ∃ fields, Json.Reader.read source = .ok (.object fields)

/-- The cause is that a text is no document. -/
def Cause.IsMalformed (cause : Cause) : Prop :=
  ∃ message, cause = .malformedDocument message

/-- The report refuses the text as a whole: it is about a range of its bytes, and no place in it. -/
structure Diagnostic.IsRefusal (text : String) (sourceId : Nat) (report : Diagnostic) : Prop where
  isWarning : report.isWarning = false
  source : report.sourceId = sourceId
  path : report.path = none
  span
    : ∃ span,
        report.span = some span ∧ span.start ≤ span.stop ∧ span.stop ≤ text.utf8ByteSize
  cause : report.cause.IsMalformed

/-- The range that a refusal is about lies in the text, whether that is no JSON or no object. -/
theorem Document.read_refused {text : String} {sourceId : Nat} {error : DocumentError}
    (refused : Document.read text sourceId = .error error)
    : error.diagnostic.IsRefusal text sourceId ∧ ¬ IsDocumentText text := by
  simp only [Document.read] at refused
  split at refused
  · rename_i failure read
    cases refused
    refine ⟨⟨rfl, rfl, rfl, ⟨_, rfl, Nat.le_refl _, ?_⟩, _, rfl⟩, ?_⟩
    · rw [← utf8Length_toList, ← utf8_length]
      exact Position.offset_le _ _
    · rintro ⟨fields, again⟩
      cases read.symm.trans again
  · cases refused
  · rename_i value notObject read
    cases refused
    refine ⟨⟨rfl, rfl, rfl, ⟨_, rfl, Nat.zero_le _, ?_⟩, _, rfl⟩, ?_⟩
    · rw [← utf8Length_toList]
      exact utf8Length_mono (trimRight_starts _)
    · rintro ⟨fields, again⟩
      exact notObject fields (Except.ok.inj (read.symm.trans again))

theorem Document.read_accepted {text : String} {sourceId : Nat} {document : Document}
    (read : Document.read text sourceId = .ok document)
    : document.sourceId = sourceId ∧ IsDocumentText text := by
  simp only [Document.read] at read
  split at read
  · cases read
  · rename_i fields found
    cases read
    exact ⟨rfl, fields, found⟩
  · cases read

/-- A failure is never a refusal: a compilation of a document does not find it malformed. -/
theorem Diagnostic.IsFailure.not_malformed {options : Options} {sourceId : Nat}
    {report : Diagnostic} (failure : report.IsFailure options sourceId)
    : ¬ report.cause.IsMalformed := by
  rintro ⟨message, malformed⟩
  have fails := failure.cause
  rw [malformed] at fails
  exact fails

-----------------------------------------------------------------------------------------
-- The classes of reports
-----------------------------------------------------------------------------------------

/-- What a compilation of a source text reports is of one of three classes.  Its warnings are notices
and, at the lenient level, violations; a text that is no document is refused at every level; and a
document fails by a violation at the strict level, an unknown tag or the limit of nesting.
-/
theorem compile_report_classes (source : String) (options : Options) (sourceId : Nat)
    : (∀ compilation,
        compile source options sourceId = .ok compilation
        → ∀ report ∈ compilation.warnings, report.IsWarning options sourceId)
      ∧ (∀ fatal,
        compile source options sourceId = .error fatal
        → (∀ tag, fatal.cause ≠ .notImplemented tag)
          ∧ (fatal.cause.IsMalformed ↔ ¬ IsDocumentText source)
          ∧ (¬ IsDocumentText source → fatal.IsRefusal source sourceId)
          ∧ (IsDocumentText source → fatal.IsFailure options sourceId))
      ∧ (¬ IsDocumentText source → ∃ fatal, compile source options sourceId = .error fatal) := by
  rw [compile]
  cases read : Document.read source sourceId with
  | error error =>
      obtain ⟨refusal, noDocument⟩ := Document.read_refused read
      refine ⟨fun _ compiled => (by cases compiled), fun fatal failed => ?_, fun _ => ⟨_, rfl⟩⟩
      cases failed
      refine ⟨fun tag same => ?_, iff_of_true refusal.cause noDocument, fun _ => refusal,
        fun accepted => (noDocument accepted).elim⟩
      cases same
  | ok document =>
      obtain ⟨rfl, accepted⟩ := Document.read_accepted read
      have classed := document.trace_classed options
      refine ⟨fun compilation compiled report member => ?_, fun fatal failed => ?_,
        fun noDocument => (noDocument accepted).elim⟩
      · rw [← (Document.compile_ok_iff_trace.mp compiled).2] at member
        exact classed.recorded report member
      · have failure := classed.ended fatal (Document.compile_error_iff_trace.mp failed)
        refine ⟨fun tag same => ?_, iff_of_false failure.not_malformed (not_not.mpr accepted),
          fun noDocument => (noDocument accepted).elim, fun _ => failure⟩
        have fails := failure.cause
        rw [same] at fails
        exact fails

/-- The text of a card with a deferred element and a rule. -/
def noticedCard : String :=
  Json.compact (.object
    [("elements", .array
      [.object [("tag", .string "markdown")], .object [("tag", .string "hr")]])])

/-- The notice is the warning of the noticed card at the silent level, and a text that breaks off is
refused there.  Witness: evaluation of both readings.
-/
theorem noticedCard_classes
    : (∃ compilation,
        compile noticedCard { level := .off } 7 = .ok compilation
        ∧ ∃ report ∈ compilation.warnings, report.IsWarning { level := .off } 7)
      ∧ ∃ fatal,
          compile "[" { level := .off } 7 = .error fatal ∧ fatal.IsRefusal "[" 7 := by
  constructor
  · have evaluated
        : (compile noticedCard { level := .off } 7).toOption.map (·.warnings.length)
          = some 1 := by
      decide +kernel
    obtain ⟨compilation, compiled, single⟩ := ok_of_toOption_map evaluated
    obtain ⟨report, only⟩ := List.length_eq_one_iff.mp single
    have member : report ∈ compilation.warnings := only ▸ List.mem_singleton_self report
    obtain ⟨warns, _⟩ := compile_report_classes noticedCard { level := .off } 7
    exact ⟨compilation, compiled, report, member, warns compilation compiled report member⟩
  · have noDocument : ¬ IsDocumentText "[" := by
      rintro ⟨fields, read⟩
      have refused : (Json.Reader.read "[").isOk = false := by decide +kernel
      rw [read] at refused
      cases refused
    obtain ⟨_, classes, refused⟩ := compile_report_classes "[" { level := .off } 7
    obtain ⟨fatal, failed⟩ := refused noDocument
    exact ⟨fatal, failed, (classes fatal failed).2.2.1 noDocument⟩

end MessageCard
