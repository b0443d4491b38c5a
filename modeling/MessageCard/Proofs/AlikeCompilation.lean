import MessageCard.Proofs.AlikeReading
import MessageCard.Proofs.DocumentRun

/-! Alike cards under alike settings.  Where two settings make alike nodes of every text that a card
shows, and alike reports of its unknown tags, they compile alike cards to alike ends: to alike
trees with one list of warnings, or to alike fatal reports.
-/

namespace MessageCard

variable {Shown : LocalizedText → Prop} {Tags : String → String → Prop}
  {Nodes : Node → Node → Prop} {Reports : Diagnostic → Diagnostic → Prop}

-----------------------------------------------------------------------------------------
-- Alike traces
-----------------------------------------------------------------------------------------

/-- Both parts came to results that are related, both were dropped, or both ended the compilation
with related reports.
-/
inductive Outcome.Alike {α β : Type} (Reports : Diagnostic → Diagnostic → Prop)
    (Results : α → β → Prop) : Outcome α → Outcome β → Prop
  | done {result : α} {other : β} (results : Results result other)
    : Alike Reports Results (.done result) (.done other)
  | dropped : Alike Reports Results .dropped .dropped
  | aborted {fatal other : Diagnostic} (reports : Reports fatal other)
    : Alike Reports Results (.aborted fatal) (.aborted other)

/-- The traces record the same, and their outcomes are alike. -/
structure Trace.Alike {α β : Type} (Reports : Diagnostic → Diagnostic → Prop)
    (Results : α → β → Prop) (trace : Trace α) (other : Trace β) : Prop where
  recorded : trace.recorded = other.recorded
  outcome : Outcome.Alike Reports Results trace.outcome other.outcome

namespace Trace

variable {α β γ δ : Type} {Results : α → β → Prop} {Others : γ → δ → Prop}

theorem Alike.of_done {result : α} {other : β} (results : Results result other)
    : Alike Reports Results (done result) (done other) :=
  ⟨rfl, .done results⟩

/-- Sequences of alike parts are alike, by cases on the outcomes of the first parts. -/
theorem Alike.andThen {trace : Trace α} {other : Trace β} {next : α → Trace γ}
    {again : β → Trace δ} (alike : Alike Reports Results trace other)
    (later
      : ∀ result other,
          Results result other → Alike Reports Others (next result) (again other))
    : Alike Reports Others (trace.andThen next) (other.andThen again) := by
  rcases trace with ⟨recorded, outcome⟩
  rcases other with ⟨reports, ended⟩
  obtain ⟨rfl, outcomes⟩ := alike
  cases outcomes with
  | @done result other results =>
      have second := later result other results
      refine ⟨?_, second.outcome⟩
      simp only [Trace.andThen, after, second.recorded]
  | dropped => exact ⟨rfl, .dropped⟩
  | aborted reports => exact ⟨rfl, .aborted reports⟩

theorem Alike.map {trace : Trace α} {other : Trace β} {f : α → γ} {g : β → δ}
    (alike : Alike Reports Results trace other)
    (lift : ∀ result other, Results result other → Others (f result) (g other))
    : Alike Reports Others (trace.map f) (other.map g) :=
  alike.andThen fun result other results => of_done (lift result other results)

theorem Alike.optional {trace : Trace α} {other : Trace β}
    (alike : Alike Reports Results trace other)
    : Alike Reports (Option.Rel Results) trace.optional other.optional := by
  rcases trace with ⟨recorded, outcome⟩
  rcases other with ⟨reports, ended⟩
  obtain ⟨rfl, outcomes⟩ := alike
  cases outcomes with
  | done results => exact ⟨rfl, .done (.some results)⟩
  | dropped => exact ⟨rfl, .done .none⟩
  | aborted reports => exact ⟨rfl, .aborted reports⟩

end Trace

-----------------------------------------------------------------------------------------
-- Alike settings
-----------------------------------------------------------------------------------------

/-- The settings treat faults, deferred tags and levels of nesting as one; the nodes that they make
of a shown text are related, and so are their reports of tags that may be worded differently.
-/
structure Setting.Likeness (Shown : LocalizedText → Prop) (Tags : String → String → Prop)
    (Nodes : Node → Node → Prop) (Reports : Diagnostic → Diagnostic → Prop)
    (left right : Setting) : Prop where
  level : left.options.level = right.options.level
  maxDepth : left.options.maxDepth = right.options.maxDepth
  sourceId : left.sourceId = right.sourceId
  header
    : ∀ (template : Template) {title : LocalizedText},
        Shown title
        → Nodes (.header template (left.display title)) (.header template (right.display title))
  image
    : ∀ {image : Image} (compact : Bool) (width : Option Double),
        Shown image.alt
        → Nodes (.image left image compact width) (.image right image compact width)
  embeddedImage
    : ∀ {image : Image} (preview : Bool),
        Shown image.alt
        → Nodes (.embeddedImage left image preview) (.embeddedImage right image preview)
  node : ∀ node, Nodes node node
  withChildren
    : ∀ (node : Node) {children others : List Node},
        List.Forall₂ Nodes children others
        → Nodes (node.withChildren children) (node.withChildren others)
  report : ∀ report, Reports report report
  unknown
    : ∀ (field : TagField) {tag other : String} (allowed : String) (path : Path) (sourceId : Nat),
        Tags tag other
        → Reports (.fatal (.unknownTag field tag allowed) path sourceId)
            (.fatal (.unknownTag field other allowed) path sourceId)

variable {left right : Setting}

/-- Settings that agree on the level, the limit and the source treat a fault as one. -/
theorem Setting.Likeness.fault_alike
    (settings : Setting.Likeness Shown Tags Nodes Reports left right) {α β : Type}
    {Results : α → β → Prop} (fault : Fault) (path : Path)
    : Trace.Alike Reports Results (left.fault fault path) (right.fault fault path) := by
  simp only [Setting.fault, ← settings.level, ← settings.sourceId]
  cases left.options.level.verdict fault.message path left.sourceId with
  | ok reports => exact ⟨rfl, .dropped⟩
  | error fatal => exact ⟨rfl, .aborted (settings.report fatal)⟩

theorem Setting.Likeness.unknown_alike
    (settings : Setting.Likeness Shown Tags Nodes Reports left right) {α β : Type}
    {Results : α → β → Prop} (field : TagField) {tag other : String} (allowed : String)
    (path : Path) (tags : Tags tag other)
    : Trace.Alike Reports Results (left.abort (.unknownTag field tag allowed) path)
        (right.abort (.unknownTag field other allowed) path) := by
  simp only [Setting.abort, ← settings.sourceId]
  exact ⟨rfl, .aborted (settings.unknown field allowed path left.sourceId tags)⟩

theorem Setting.Likeness.defer_alike
    (settings : Setting.Likeness Shown Tags Nodes Reports left right) {α β : Type}
    {Results : α → β → Prop} (tag : ElementTag) (path : Path)
    : Trace.Alike Reports Results (left.defer tag path) (right.defer tag path) := by
  refine ⟨?_, .dropped⟩
  simp only [Setting.defer, Trace.dropped, settings.sourceId]

theorem Setting.Likeness.atLevel_alike
    (settings : Setting.Likeness Shown Tags Nodes Reports left right) {α β : Type}
    {Results : α → β → Prop} (path : Path) (level : Nat) {below : Trace α} {other : Trace β}
    (alike : Trace.Alike Reports Results below other)
    : Trace.Alike Reports Results (atLevel left path level below)
        (atLevel right path level other) := by
  simp only [atLevel, ← settings.maxDepth]
  split
  · simp only [Setting.abort, ← settings.sourceId]
    exact ⟨rfl, .aborted (settings.report _)⟩
  · exact alike

-----------------------------------------------------------------------------------------
-- Elements and columns
-----------------------------------------------------------------------------------------

theorem Child.compile_alike (settings : Setting.Likeness Shown Tags Nodes Reports left right)
    (path : Path) {child other : Child} (alike : Child.Alike Shown Tags child other)
    : Trace.Alike Reports Nodes (child.compile left path) (other.compile right path) := by
  cases alike with
  | faulty fault => exact settings.fault_alike fault path
  | unknown tags => exact settings.unknown_alike _ _ path tags
  | plain content => exact .of_done (settings.node _)
  | markdown content => exact .of_done (settings.node _)
  | image shown preview => exact .of_done (settings.embeddedImage preview shown)

theorem Child.compileAll_alike
    (settings : Setting.Likeness Shown Tags Nodes Reports left right) (path : Path)
    (index : Nat) {children others : List Child}
    (each : List.Forall₂ (Child.Alike Shown Tags) children others)
    : Trace.Alike Reports (List.Forall₂ Nodes) (Child.compileAll left path index children)
        (Child.compileAll right path index others) := by
  induction each generalizing index with
  | nil => exact .of_done .nil
  | cons first _ ih =>
      refine (Child.compile_alike settings (path.item index) first).andThen ?_
      intro node other nodes
      exact (ih (index + 1)).map fun _ _ rest => .cons nodes rest

mutual

/-- Alike elements are compiled alike; mutual recursion over elements and columns. -/
theorem Element.compile_alike
    (settings : Setting.Likeness Shown Tags Nodes Reports left right) (path : Path)
    (level : Nat) {element other : Element} (alike : Element.Alike Shown Tags element other)
    : Trace.Alike Reports Nodes (element.compile left path level)
        (other.compile right path level) := by
  cases alike with
  | faulty fault => exact settings.fault_alike fault path
  | unknown tags => exact settings.unknown_alike _ _ path tags
  | deferred tag => exact settings.defer_alike tag path
  | div content => exact .of_done (settings.node _)
  | hr => exact .of_done (settings.node _)
  | img shown compact width => exact .of_done (settings.image compact width shown)
  | note each =>
      simp only [Element.compile]
      exact (Child.compileAll_alike settings _ 0 each).map fun _ _ nodes =>
        settings.withChildren _ nodes
  | columnSet each =>
      simp only [Element.compile]
      exact (Column.compileAll_alike settings _ level 0 each).map fun _ _ nodes =>
        settings.withChildren _ nodes
termination_by sizeOf element

theorem Element.compileAll_alike
    (settings : Setting.Likeness Shown Tags Nodes Reports left right) (path : Path)
    (level index : Nat) {elements others : List Element}
    (each : List.Forall₂ (Element.Alike Shown Tags) elements others)
    : Trace.Alike Reports (List.Forall₂ Nodes)
        (Element.compileAll left path level index elements)
        (Element.compileAll right path level index others) := by
  cases each with
  | nil =>
      simp only [Element.compileAll]
      exact .of_done .nil
  | cons first rest =>
      simp only [Element.compileAll]
      have here := Element.compile_alike settings (path.item index) level first
      refine here.optional.andThen ?_
      intro node other nodes
      refine (Element.compileAll_alike settings path level (index + 1) rest).map ?_
      intro later again below
      cases nodes with
      | none => exact below
      | some same => exact .cons same below
termination_by sizeOf elements

theorem Column.compileAll_alike
    (settings : Setting.Likeness Shown Tags Nodes Reports left right) (path : Path)
    (level index : Nat) {columns others : List Column}
    (each : List.Forall₂ (Column.Alike Shown Tags) columns others)
    : Trace.Alike Reports (List.Forall₂ Nodes)
        (Column.compileAll left path level index columns)
        (Column.compileAll right path level index others) := by
  cases each with
  | nil =>
      simp only [Column.compileAll]
      exact .of_done .nil
  | cons first rest =>
      simp only [Column.compileAll]
      have here := Column.compile_alike settings (path.item index) level first
      refine here.andThen ?_
      intro node other nodes
      refine (Column.compileAll_alike settings path level (index + 1) rest).map ?_
      intro later again below
      exact .cons nodes below
termination_by sizeOf columns

theorem Column.compile_alike
    (settings : Setting.Likeness Shown Tags Nodes Reports left right) (path : Path)
    (level : Nat) {column other : Column} (alike : Column.Alike Shown Tags column other)
    : Trace.Alike Reports Nodes (column.compile left path level)
        (other.compile right path level) := by
  cases alike with
  | faulty fault => exact settings.fault_alike fault path
  | elements each =>
      cases each with
      | nil =>
          simp only [Column.compile]
          exact .of_done (settings.node _)
      | cons first rest =>
          simp only [Column.compile]
          have inside := Element.compileAll_alike settings (path.field "elements") (level + 1) 0
            (.cons first rest)
          exact (settings.atLevel_alike _ _ inside).map fun _ _ nodes =>
            settings.withChildren _ nodes
termination_by sizeOf column

end

-----------------------------------------------------------------------------------------
-- Cards and documents
-----------------------------------------------------------------------------------------

theorem Header.compileOptional_alike
    (settings : Setting.Likeness Shown Tags Nodes Reports left right)
    {header other : Option Header} (alike : Option.Rel (Header.Alike Shown) header other)
    : Trace.Alike Reports (Option.Rel Nodes) (Header.compileOptional left header)
        (Header.compileOptional right other) := by
  cases alike with
  | none => exact .of_done .none
  | some same =>
      cases same with
      | faulty fault => exact (settings.fault_alike fault Path.header).optional
      | titled template shown => exact .of_done (.some (settings.header template shown))

theorem Body.compile_alike (settings : Setting.Likeness Shown Tags Nodes Reports left right)
    {body other : Body} (alike : Body.Alike Shown Tags body other)
    : Trace.Alike Reports (List.Forall₂ Nodes) (body.compile left) (other.compile right) := by
  have elements : List.Forall₂ (Element.Alike Shown Tags) body.items other.items := by
    cases alike with
    | faulty fault => exact .nil
    | elements each => exact each
  have checked : Trace.Alike Reports (Option.Rel fun (_ _ : Unit) => True) (body.check left)
      (other.check right) := by
    cases alike with
    | faulty fault => exact (settings.fault_alike fault Path.body).optional
    | elements each => exact .of_done (.some trivial)
  refine checked.andThen ?_
  intro _ _ _
  exact settings.atLevel_alike _ _ (Element.compileAll_alike settings Path.body 1 0 elements)

/-- Related headers and related elements make related trees. -/
theorem Setting.Likeness.card_alike
    (settings : Setting.Likeness Shown Tags Nodes Reports left right) {header other : Option Node}
    {elements others : List Node} (headers : Option.Rel Nodes header other)
    (each : List.Forall₂ Nodes elements others)
    : Nodes (Node.card header elements) (Node.card other others) := by
  have container := settings.withChildren (Node.new .elementsContainer [Style.elements]) each
  have sections : List.Forall₂ Nodes
      (header.toList ++ [(Node.new .elementsContainer [Style.elements]).withChildren elements])
      (other.toList ++ [(Node.new .elementsContainer [Style.elements]).withChildren others]) := by
    cases headers with
    | none => exact .cons container .nil
    | some same => exact .cons same (.cons container .nil)
  exact settings.withChildren (Node.new .root [Style.card]) sections

theorem Card.compile_alike (settings : Setting.Likeness Shown Tags Nodes Reports left right)
    {card other : Card} (alike : Card.Alike Shown Tags card other)
    : Trace.Alike Reports Nodes (card.compile left) (other.compile right) := by
  refine (Header.compileOptional_alike settings alike.header).andThen ?_
  intro header title headers
  refine (Body.compile_alike settings alike.body).map ?_
  intro elements others each
  exact settings.card_alike headers each

/-- Both compilations succeed, with related trees and the same warnings, or both fail, with related
reports.
-/
inductive OutcomesAlike (Nodes : Node → Node → Prop) (Reports : Diagnostic → Diagnostic → Prop)
    : Except Diagnostic Compilation → Except Diagnostic Compilation → Prop
  | ok {compilation other : Compilation} (trees : Nodes compilation.tree other.tree)
    (warnings : compilation.warnings = other.warnings)
    : OutcomesAlike Nodes Reports (.ok compilation) (.ok other)
  | error {fatal other : Diagnostic} (reports : Reports fatal other)
    : OutcomesAlike Nodes Reports (.error fatal) (.error other)

/-- Outcomes that are alike in everything are one. -/
theorem OutcomesAlike.eq {outcome other : Except Diagnostic Compilation}
    (alike : OutcomesAlike Eq Eq outcome other)
    : outcome = other := by
  cases alike with
  | @ok compilation other trees warnings =>
      rcases compilation with ⟨tree, reports⟩
      rcases other with ⟨_, _⟩
      cases trees
      cases warnings
      rfl
  | error reports => rw [reports]

/-- Akin documents are compiled alike under alike settings. -/
theorem Document.compile_alike {Akin : Part → Json → Json → Prop}
    (wording : Wording Akin Shown Tags) {document other : Document}
    (akin : document.AkinIn Akin other) {options others : Options}
    (settings
      : Setting.Likeness Shown Tags Nodes Reports (document.setting options)
          (other.setting others))
    : OutcomesAlike Nodes Reports (document.compile options) (other.compile others) := by
  have alike : Trace.Alike Reports Nodes (document.trace options) (other.trace others) :=
    Card.compile_alike settings (wording.card_alike akin)
  change OutcomesAlike Nodes Reports (document.trace options).compilation
    (other.trace others).compilation
  generalize document.trace options = trace, other.trace others = again at alike ⊢
  rcases trace with ⟨recorded, outcome⟩
  rcases again with ⟨reports, ended⟩
  obtain ⟨rfl, outcomes⟩ := alike
  cases outcomes with
  | done trees => exact .ok trees rfl
  | dropped => exact .ok (settings.card_alike .none .nil) rfl
  | aborted reports => exact .error reports

/-- Settings that show each of the texts as one string make the same nodes of them. -/
theorem Setting.Likeness.of_display {Reports : Diagnostic → Diagnostic → Prop}
    (level : left.options.level = right.options.level)
    (maxDepth : left.options.maxDepth = right.options.maxDepth)
    (sourceId : left.sourceId = right.sourceId)
    (display : ∀ text, Shown text → left.display text = right.display text)
    (report : ∀ report, Reports report report)
    (unknown
      : ∀ (field : TagField) {tag other : String} (allowed : String) (path : Path)
          (sourceId : Nat),
          Tags tag other
          → Reports (.fatal (.unknownTag field tag allowed) path sourceId)
              (.fatal (.unknownTag field other allowed) path sourceId))
    : Setting.Likeness Shown Tags Eq Reports left right where
  level
  maxDepth
  sourceId
  header template _ shown := by rw [display _ shown]
  image compact width shown := by simp only [Node.image, display _ shown]
  embeddedImage preview shown := by simp only [Node.embeddedImage, display _ shown]
  node _ := rfl
  withChildren node children others each := by
    rw [List.forall₂_eq_eq_eq] at each
    rw [each]
  report
  unknown

end MessageCard
