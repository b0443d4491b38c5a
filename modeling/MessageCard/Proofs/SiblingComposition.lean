import MessageCard.Proofs.FirstOffence
import MessageCard.Proofs.MovedTraces
import MessageCard.Proofs.ReportAccounting

/-! Siblings do not see each other.  The elements of one list compiled after those of another come
to what both come to by themselves, at later positions; and a header that does not end the
compilation only comes in front of what the body comes to.
-/

namespace MessageCard

/-- The place of an element of the body, or one inside it, when so many elements come before. -/
def Path.shifted (offset : Nat) (path : Path) : Path :=
  match path.steps with
  | .field name :: .index position :: rest =>
      { steps := .field name :: .index (position + offset) :: rest }
  | _ => path

/-- The report about the element that was at its place, when so many elements come before. -/
def Diagnostic.shifted (offset : Nat) (report : Diagnostic) : Diagnostic :=
  report.moved (Path.shifted offset)

theorem Path.shifted_carries (offset position : Nat)
    : Path.Carries (Path.shifted offset) (Path.body.item position)
        (Path.body.item (position + offset)) :=
  fun _ => rfl

/-- Elements compiled after others start where those end; by list induction, regrouping. -/
theorem Element.compileAll_append (setting : Setting) (path : Path) (level index : Nat)
    (front back : List Element)
    : Element.compileAll setting path level index (front ++ back)
      = (Element.compileAll setting path level index front).andThen fun nodes =>
          (Element.compileAll setting path level (index + front.length) back).map
            (nodes ++ ·) := by
  induction front generalizing index with
  | nil =>
      simp only [List.nil_append, Element.compileAll, Trace.done_andThen]
      exact (Trace.map_id _).symm
  | cons element rest ih =>
      have position : index + 1 + rest.length = index + (element :: rest).length := by
        rw [List.length_cons]
        omega
      rw [List.cons_append, Element.compileAll, Element.compileAll, Trace.andThen_assoc]
      congr 1
      funext node
      rw [ih (index + 1), position, Trace.andThen_map, Trace.map_andThen]
      congr 1
      funext nodes
      rw [Trace.map_map]
      congr 1
      funext later
      exact (List.append_assoc _ _ _).symm

-----------------------------------------------------------------------------------------
-- Documents with given elements
-----------------------------------------------------------------------------------------

namespace Document

/-- The document with these values for the elements of its body. -/
def withEntries (document : Document) (entries : List Json) : Document :=
  { document with elements := some (.array entries) }

/-- The document without a header, and with these values for the elements of its body. -/
def bare (document : Document) (entries : List Json) : Document :=
  { document.withEntries entries with header := none }

end Document

namespace Compilation

/-- The nodes of the elements of the body. -/
def elements (compilation : Compilation) : List Node :=
  ((compilation.tree.child .elementsContainer).map Node.children).getD []

/-- The elements of one compilation and then those of another in one container.  The reports of the
second are about places after so many elements.
-/
def append (first : Compilation) (offset : Nat) (second : Compilation) : Compilation where
  tree := Node.card none (first.elements ++ second.elements)
  warnings := first.warnings ++ second.warnings.map (Diagnostic.shifted offset)

/-- The compilation with the header of another, if that has one, and its reports in front. -/
def headed (body head : Compilation) : Compilation where
  tree := body.tree.withChildren ((head.tree.child .header).toList ++ body.tree.children)
  warnings := head.warnings ++ body.warnings

end Compilation

variable (document : Document) (options : Options)

/-- The trace of a body that is an array of these values. -/
def Document.bodyTrace (entries : List Json) : Trace (List Node) :=
  atLevel (document.setting options) Path.body 1
    (Element.compileAll (document.setting options) Path.body 1 0 (entries.map Element.ofJson))

theorem Document.trace_withEntries (entries : List Json)
    : (document.withEntries entries).trace options
      = (Header.compileOptional (document.setting options)
            (document.header.map Header.ofJson)).andThen fun header =>
          (document.bodyTrace options entries).map (Node.card header) := by
  rw [bodyTrace, ← Body.compile_of_array]
  rfl

section

variable {document options} {entries : List Json} {header : Option Node}
  (headed
    : (Header.compileOptional (document.setting options)
        (document.header.map Header.ofJson)).outcome = .done header)

include headed

/-- With a header that comes to a node or is left out, a compilation succeeds when its elements
come to nodes.
-/
theorem Document.compile_withEntries_of_done {nodes : List Node}
    (ended : (document.bodyTrace options entries).outcome = .done nodes)
    : (document.withEntries entries).compile options
      = .ok
          { tree := Node.card header nodes,
            warnings :=
              (Header.compileOptional (document.setting options)
                (document.header.map Header.ofJson)).recorded
              ++ (document.bodyTrace options entries).recorded } := by
  refine compile_ok_iff_trace.mpr ⟨?_, ?_⟩
  · rw [trace_withEntries, Trace.andThen_outcome _ headed]
    exact Trace.map_done_iff.mpr ⟨nodes, ended, rfl⟩
  · rw [trace_withEntries, Trace.andThen_recorded _ headed, Trace.map_recorded]

theorem Document.compile_withEntries_of_aborted {fatal : Diagnostic}
    (ended : (document.bodyTrace options entries).outcome = .aborted fatal)
    : (document.withEntries entries).compile options = .error fatal := by
  refine compile_error_iff_trace.mpr ?_
  rw [trace_withEntries, Trace.andThen_outcome _ headed]
  exact Trace.map_aborted_iff.mpr ended

end

section

variable {document options} {entries : List Json}

/-- Without a header a compilation comes to what its elements come to. -/
theorem Document.compile_bare_of_done {nodes : List Node}
    (ended : (document.bodyTrace options entries).outcome = .done nodes)
    : (document.bare entries).compile options
      = .ok
          { tree := Node.card none nodes,
            warnings := (document.bodyTrace options entries).recorded } :=
  @compile_withEntries_of_done { document with header := none } options entries none rfl nodes
    ended

theorem Document.compile_bare_of_aborted {fatal : Diagnostic}
    (ended : (document.bodyTrace options entries).outcome = .aborted fatal)
    : (document.bare entries).compile options = .error fatal :=
  @compile_withEntries_of_aborted { document with header := none } options entries none rfl fatal
    ended

end

/-- Values appended to others are compiled after them, at positions shifted by their number. -/
theorem Document.bodyTrace_append (front back : List Json)
    : document.bodyTrace options (front ++ back)
      = (document.bodyTrace options front).andThen fun nodes =>
          ((document.bodyTrace options back).moved (Path.shifted front.length) 0).map
            (nodes ++ ·) := by
  by_cases within : 1 ≤ options.maxDepth
  · have limited : 1 ≤ (document.setting options).options.maxDepth := within
    have later := Element.compileAll_eq_moved (document.setting options)
      (Path.shifted_carries front.length) 0 1 (back.map Element.ofJson)
    simp only [bodyTrace, atLevel_of_le limited, List.map_append, Element.compileAll_append,
      List.length_map, Nat.zero_add, ← later]
    rfl
  · have deep : (document.setting options).options.maxDepth < 1 := Nat.lt_of_not_le within
    simp only [bodyTrace, atLevel, if_pos deep]
    rfl

-----------------------------------------------------------------------------------------
-- Siblings, and a header in front
-----------------------------------------------------------------------------------------

/-- What elements and further ones come to, from what each of the two lists comes to by itself:
the first list decides if it fails, and the reports of the second are about later positions.
-/
theorem Document.compile_append (front back : List Json)
    : (document.bare (front ++ back)).compile options
      = match (document.bare front).compile options, (document.bare back).compile options with
        | .error fatal, _ => .error fatal
        | .ok _, .error fatal => .error (fatal.shifted front.length)
        | .ok first, .ok second => .ok (first.append front.length second) := by
  cases first : (document.bodyTrace options front).outcome with
  | dropped => exact (Element.atLevel_not_dropped _ _ _ _ first).elim
  | aborted fatal =>
      have whole : (document.bodyTrace options (front ++ back)).outcome = .aborted fatal := by
        rw [bodyTrace_append]
        exact Trace.andThen_aborted _ first
      rw [compile_bare_of_aborted whole, compile_bare_of_aborted first]
  | done nodes =>
      cases second : (document.bodyTrace options back).outcome with
      | dropped => exact (Element.atLevel_not_dropped _ _ _ _ second).elim
      | aborted fatal =>
          have whole : (document.bodyTrace options (front ++ back)).outcome
              = .aborted (fatal.shifted front.length) := by
            rw [bodyTrace_append, Trace.andThen_outcome _ first, Trace.map_aborted_iff,
              Trace.moved_aborted _ _ second, Diagnostic.deepened_zero]
            rfl
          rw [compile_bare_of_aborted whole, compile_bare_of_done first,
            compile_bare_of_aborted second]
      | done others =>
          have whole : (document.bodyTrace options (front ++ back)).outcome
              = .done (nodes ++ others) := by
            rw [bodyTrace_append, Trace.andThen_outcome _ first, Trace.map_done_iff]
            exact ⟨others, Trace.moved_done _ _ second, rfl⟩
          rw [compile_bare_of_done whole, compile_bare_of_done first,
            compile_bare_of_done second, bodyTrace_append, Trace.andThen_recorded _ first,
            Trace.map_recorded, Trace.moved_recorded]
          rfl

/-- Below the strict level a header comes to a node or is left out, whatever it is. -/
theorem Header.compileOptional_done {setting : Setting}
    (lenient : setting.options.level ≠ .error) (header : Option Header)
    : ∃ node, (Header.compileOptional setting header).outcome = .done node :=
  Trace.done_of_runs (Header.compileOptional_runs lenient header)
    (Header.compileOptional_not_dropped setting header)

variable {document options} in
/-- Below the strict level the header is the node and the reports that it comes to without
elements, and these come in front of what the elements come to by themselves.
-/
theorem Document.compile_withEntries (lenient : options.level ≠ .error)
    (positive : 1 ≤ options.maxDepth)
    : ∃ head,
        (document.withEntries []).compile options = .ok head
        ∧ ∀ entries,
            (document.withEntries entries).compile options
            = match (document.bare entries).compile options with
              | .error fatal => .error fatal
              | .ok body => .ok (body.headed head) := by
  have strictless : (document.setting options).options.level ≠ .error := lenient
  obtain ⟨header, headed⟩ :=
    Header.compileOptional_done strictless (document.header.map Header.ofJson)
  have empty : document.bodyTrace options [] = .done [] := by
    rw [bodyTrace, atLevel_of_le positive]
    rfl
  have none : (document.bodyTrace options []).outcome = .done [] := by
    rw [empty]
    rfl
  refine ⟨_, compile_withEntries_of_done headed none, fun entries => ?_⟩
  cases ended : (document.bodyTrace options entries).outcome with
  | dropped => exact (Element.atLevel_not_dropped _ _ _ _ ended).elim
  | aborted fatal =>
      rw [compile_bare_of_aborted ended, compile_withEntries_of_aborted headed ended]
  | done nodes =>
      have shown := (Node.card_child (Header.kind_of_compileOptional headed) []).1
      rw [compile_withEntries_of_done headed ended, compile_bare_of_done ended]
      simp only [Compilation.headed, shown, empty, Trace.done, List.append_nil]
      rfl

/-- Compilation is compositional.  Elements and further ones come to what the two lists come to
by themselves, the second at later positions; and below the strict level a header only comes in
front.
-/
theorem Document.compile_compositional (document : Document) (options : Options)
    : (∀ front back,
        (document.bare (front ++ back)).compile options
        = match (document.bare front).compile options,
              (document.bare back).compile options with
          | .error fatal, _ => .error fatal
          | .ok _, .error fatal => .error (fatal.shifted front.length)
          | .ok first, .ok second => .ok (first.append front.length second))
      ∧ (options.level ≠ .error
          → 1 ≤ options.maxDepth
          → ∃ head,
              (document.withEntries []).compile options = .ok head
              ∧ ∀ entries,
                  (document.withEntries entries).compile options
                  = match (document.bare entries).compile options with
                    | .error fatal => .error fatal
                    | .ok body => .ok (body.headed head)) :=
  ⟨document.compile_append options, Document.compile_withEntries⟩

/-- A card with a title, a rule, and an element that is dropped. -/
def Document.announcement : Document where
  config := none
  header := some (.object
    [("title", .object [("tag", .string "plain_text"), ("content", .string "News")])])
  elements := some (.array [.object [("tag", .string "hr")], .object [("tag", .string "div")]])
  sourceId := 0

/-- The elements of the announcement are compiled with one warning, and its header comes in front
of them.  Witness: evaluation of the two compilations.
-/
theorem Document.announcement_compositional
    : Level.warning ≠ .error
      ∧ 1 ≤ 1
      ∧ ∃ head body,
          (Document.announcement.withEntries []).compile
              { level := .warning, locale := none, maxDepth := 1 }
            = .ok head
          ∧ (Document.announcement.bare
                [.object [("tag", .string "hr")], .object [("tag", .string "div")]]).compile
              { level := .warning, locale := none, maxDepth := 1 }
            = .ok body
          ∧ body.warnings.length = 1
          ∧ Document.announcement.compile { level := .warning, locale := none, maxDepth := 1 }
            = .ok (body.headed head) := by
  have lenient : Level.warning ≠ .error := by decide
  have positive : 1 ≤ 1 := by decide
  obtain ⟨head, headed, whole⟩ :=
    (Document.announcement.compile_compositional
      { level := .warning, locale := none, maxDepth := 1 }).2 lenient positive
  exact ⟨lenient, positive, head, _, headed, rfl, rfl, whole _⟩

end MessageCard
