import MessageCard.Proofs.SiblingComposition

/-! A column compiles its elements as the body does.  Elements put into the only column of the
only set of a body come to what they come to as a body by themselves, one level deeper and at
places inside the column.
-/

namespace MessageCard

/-- A set with one column, which holds these values. -/
def Json.setOf (entries : List Json) : Json :=
  .object
    [("columns", .array [.object [("elements", .array entries)]]),
      ("tag", .string ElementTag.columnSet.name)]

/-- The node of a set with one column, which holds these nodes. -/
def Node.setOf (nodes : List Node) : Node :=
  (Node.element .columnSet).withChildren
    [(Node.new .column [Style.column]).withChildren nodes]

/-- The place inside the first column of the first element of the body. -/
def Path.nested (path : Path) : Path :=
  { steps := (((Path.body.item 0).field "columns").item 0).steps ++ path.steps }

/-- As it is shown, the place inside the column has the place of the column in front. -/
theorem Path.nested_text (name : String) (rest : List Step)
    : (Path.nested { steps := .field name :: rest }).text
      = "elements[0].columns[0]." ++ Path.text { steps := .field name :: rest } := by
  have zero : toString 0 = "0" := rfl
  simp [nested, body, top, item, field, text, stepText, zero, ← String.toList_inj]

/-- Going on without a part that is not dropped is going on from its result. -/
theorem Trace.optional_andThen {α β : Type} {trace : Trace α} (kept : trace.outcome ≠ .dropped)
    (next : Option α → Trace β)
    : trace.optional.andThen next = trace.andThen (fun result => next (some result)) := by
  rcases trace with ⟨reports, outcome⟩
  cases outcome with
  | dropped => exact (kept rfl).elim
  | _ => rfl

-----------------------------------------------------------------------------------------
-- A set with one column
-----------------------------------------------------------------------------------------

theorem Element.ofJson_setOf (entries : List Json)
    : Element.ofJson (.setOf entries) = .columnSet [.elements (entries.map Element.ofJson)] := by
  have column : Column.ofJson (.object [("elements", .array entries)])
      = .elements (entries.map Element.ofJson) :=
    Column.ofJson_of_entries rfl
  rw [Json.setOf, Element.ofJson_of_tag rfl, ← column]
  rfl

/-- A set with one column that has elements is compiled as these elements are, a level deeper. -/
theorem Element.compile_setOf (setting : Setting) (path : Path) (level : Nat)
    {elements : List Element} (filled : elements ≠ [])
    : (Element.columnSet [.elements elements]).compile setting path level
      = (atLevel setting (((path.field "columns").item 0).field "elements") (level + 1)
          (Element.compileAll setting (((path.field "columns").item 0).field "elements")
            (level + 1) 0 elements)).map Node.setOf := by
  obtain ⟨first, rest, rfl⟩ := List.exists_cons_of_ne_nil filled
  simp only [Element.compile, Column.compileAll, Column.compile, Trace.done_map]
  rw [Trace.map_andThen, Trace.andThen_map]
  rfl

variable (document : Document) (level : Level) (locale : Option String) (limit : Nat)

/-- What the elements come to as a body, moved into the column, is what they come to there. -/
theorem Document.bodyTrace_moved (entries : List Json)
    : (document.bodyTrace { level, locale, maxDepth := limit } entries).moved Path.nested 1
      = atLevel (document.setting { level, locale, maxDepth := limit + 1 })
          ((((Path.body.item 0).field "columns").item 0).field "elements") 2
          (Element.compileAll (document.setting { level, locale, maxDepth := limit + 1 })
            ((((Path.body.item 0).field "columns").item 0).field "elements") 2 0
            (entries.map Element.ofJson)) := by
  let setting := document.setting { level, locale, maxDepth := limit }
  have carries : Path.Carries Path.nested Path.body
      ((((Path.body.item 0).field "columns").item 0).field "elements") :=
    fun _ => rfl
  have inside := Element.compileAll_eq_moved setting carries.items 1 1
    (entries.map Element.ofJson)
  rw [← carries.move_eq]
  exact (setting.moved_relocation Path.nested 1).atLevel Path.body 1 inside.symm

/-- A body of one set with one column is compiled as the elements in the column are as a body. -/
theorem Document.bodyTrace_setOf {entries : List Json} (filled : entries ≠ [])
    : document.bodyTrace { level, locale, maxDepth := limit + 1 } [.setOf entries]
      = ((document.bodyTrace { level, locale, maxDepth := limit } entries).moved
          Path.nested 1).map (fun nodes => [Node.setOf nodes]) := by
  let setting := document.setting { level, locale, maxDepth := limit + 1 }
  have shallow : 1 ≤ setting.options.maxDepth := Nat.le_add_left 1 limit
  have set
      : (Element.ofJson (.setOf entries)).compile setting (Path.body.item 0) 1
        = ((document.bodyTrace { level, locale, maxDepth := limit } entries).moved
            Path.nested 1).map Node.setOf := by
    rw [bodyTrace_moved, Element.ofJson_setOf]
    exact Element.compile_setOf _ _ 1 (by simpa using filled)
  have kept
      : (((document.bodyTrace { level, locale, maxDepth := limit } entries).moved
          Path.nested 1).map Node.setOf).outcome ≠ .dropped := by
    rw [ne_eq, Trace.map_dropped_iff, Trace.moved_dropped_iff]
    exact Element.atLevel_not_dropped _ _ _ _
  calc document.bodyTrace { level, locale, maxDepth := limit + 1 } [.setOf entries]
    _ = Element.compileAll setting Path.body 1 0 [Element.ofJson (.setOf entries)] :=
        atLevel_of_le shallow _ _
    _ = (((document.bodyTrace { level, locale, maxDepth := limit } entries).moved
            Path.nested 1).map Node.setOf).optional.map Option.toList := by
        rw [← set]
        simp only [Element.compileAll, Trace.done_map, List.append_nil]
        rfl
    _ = ((document.bodyTrace { level, locale, maxDepth := limit } entries).moved
            Path.nested 1).map (fun nodes => [Node.setOf nodes]) := by
        rw [Trace.map, Trace.optional_andThen kept, Trace.map_andThen]
        rfl

-----------------------------------------------------------------------------------------
-- Whole documents
-----------------------------------------------------------------------------------------

theorem Document.compile_setOf {entries : List Json} (filled : entries ≠ [])
    : (document.bare [.setOf entries]).compile { level, locale, maxDepth := limit + 1 }
      = match (document.bare entries).compile { level, locale, maxDepth := limit } with
        | .error fatal => .error ((fatal.moved Path.nested).deepened 1)
        | .ok body =>
            .ok
              { tree := Node.card none [Node.setOf body.elements],
                warnings := body.warnings.map (Diagnostic.moved Path.nested) } := by
  have set := document.bodyTrace_setOf level locale limit filled
  cases ended : (document.bodyTrace { level, locale, maxDepth := limit } entries).outcome with
  | dropped => exact (Element.atLevel_not_dropped _ _ _ _ ended).elim
  | aborted fatal =>
      have outer
          : (document.bodyTrace { level, locale, maxDepth := limit + 1 }
                [.setOf entries]).outcome
            = .aborted ((fatal.moved Path.nested).deepened 1) := by
        rw [set, Trace.map_aborted_iff]
        exact Trace.moved_aborted _ _ ended
      rw [compile_bare_of_aborted outer, compile_bare_of_aborted ended]
  | done nodes =>
      have outer
          : (document.bodyTrace { level, locale, maxDepth := limit + 1 }
                [.setOf entries]).outcome
            = .done [Node.setOf nodes] := by
        rw [set, Trace.map_done_iff]
        exact ⟨nodes, Trace.moved_done _ _ ended, rfl⟩
      rw [compile_bare_of_done outer, compile_bare_of_done ended, set, Trace.map_recorded,
        Trace.moved_recorded]
      rfl

/-- Elements in the only column of the only set of a body come to what they come to as a body by
themselves under a limit that is one level lower: to the same nodes, with the same reports at places
inside the column, or to the same failure, in which an exceeded limit is the higher one.
-/
theorem Document.compile_nested {entries : List Json} (filled : entries ≠ [])
    : (document.bare [.setOf entries]).compile { level, locale, maxDepth := limit + 1 }
        = (match (document.bare entries).compile { level, locale, maxDepth := limit } with
          | .error fatal => .error ((fatal.moved Path.nested).deepened 1)
          | .ok body =>
              .ok
                { tree := Node.card none [Node.setOf body.elements],
                  warnings := body.warnings.map (Diagnostic.moved Path.nested) })
      ∧ ∀ name rest,
          (Path.nested { steps := .field name :: rest }).text
            = "elements[0].columns[0]." ++ Path.text { steps := .field name :: rest } :=
  ⟨document.compile_setOf level locale limit filled, Path.nested_text⟩

/-- Two elements that are too deep for a single level. -/
def Json.twoLevels : List Json :=
  [.object [("tag", .string "div")], .setOf [.object [("tag", .string "hr")]]]

/-- Put into a column, the elements fail under a limit of two levels as they do by themselves under
a limit of one.  Witness: evaluation of their own compilation.
-/
theorem Document.twoLevels_nested
    : Json.twoLevels ≠ []
      ∧ (Document.bare { config := none, header := none, elements := none, sourceId := 0 }
            [.setOf Json.twoLevels]).compile { level := .off, locale := none, maxDepth := 2 }
          = .error
              (.fatal (.depthExceeded 2)
                (((Path.body.item 1).field "columns").item 0 |>.field "elements").nested 0) := by
  have filled : Json.twoLevels ≠ [] := by simp [Json.twoLevels]
  have nested := (Document.compile_nested
    { config := none, header := none, elements := none, sourceId := 0 } .off none 1 filled).1
  exact ⟨filled, nested.trans rfl⟩

end MessageCard
