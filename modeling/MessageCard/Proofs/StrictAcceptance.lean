import MessageCard.Proofs.GrammarAcceptance

/-! Documents at the strict level.  The header and the body are read in a fixed order of checks;
together those checks ask for exactly what the grammar asks for, and what they build is the tree
that the document stands for.
-/

namespace MessageCard

open Json

-----------------------------------------------------------------------------------------
-- Headers
-----------------------------------------------------------------------------------------

/-- A header of the grammar is read with its template and its title; any other value is faulty.
-/
theorem Header.ofJson_cases (value : Json)
    : (value.IsHeader
        ∧ ∃ fields,
            value = .object fields
            ∧ ∀ setting : Setting,
                (Header.ofJson value).compile setting
                  = .done (headerNode setting.options.locale fields))
      ∨ (¬ value.IsHeader ∧ ∃ fault, Header.ofJson value = .faulty fault) := by
  cases shape : value.object? with
  | none =>
      refine Or.inr ⟨?_, .headerNotObject, by simp only [Header.ofJson, shape]⟩
      rintro ⟨fields, _, rfl, _⟩
      cases shape
  | some fields =>
      obtain rfl : value = .object fields := by cases value <;> simp_all [object?]
      cases found : objectField? fields "title" with
      | none =>
          refine Or.inr ⟨?_, .titleMissing, by simp only [Header.ofJson, shape, found]⟩
          rintro ⟨_, title, same, listed, _⟩
          cases same
          simp [objectField?_eq_some_iff.mpr listed] at found
      | some title =>
          have listed := objectField?_eq_some_iff.mp found
          -- whatever is in the grammar shares the fields and the title that were read
          have parts (is : (Json.object fields).IsHeader)
              : HasTitle title ∧ HasTemplate fields := by
            obtain ⟨_, other, same, again, titled, template⟩ := is
            cases same
            obtain rfl : other = title := by
              rw [listed] at again
              exact (Json.object.inj (Option.some.inj again)).symm
            exact ⟨titled, template⟩
          rcases templateOf_cases fields with ⟨hasTemplate, template⟩ | ⟨lacks, fault, refused⟩
          · rcases withTitle_cases
                (((stringField? fields "template").bind Template.ofName?).getD .standard) title
              with ⟨hasTitle, titled⟩ | ⟨lacks, fault, refused⟩
            · refine Or.inl ⟨⟨fields, title, rfl, listed, hasTitle, hasTemplate⟩, fields, rfl, ?_⟩
              intro setting
              simp only [Header.ofJson, shape, found, template, titled, Header.compile,
                headerNode, fieldsOf, Option.getD_some]
              rfl
            · exact Or.inr ⟨fun is => lacks (parts is).1, fault, by
                simp only [Header.ofJson, shape, found, template, refused]⟩
          · exact Or.inr ⟨fun is => lacks (parts is).2, fault, by
              simp only [Header.ofJson, shape, found, refused]⟩

/-- At the strict level the header comes to a result exactly when it is left out or a header of
the grammar, and the result is its node.
-/
theorem Header.compileOptional_done_iff {setting : Setting}
    (strict : setting.options.level = .error) {header : Option Json} {node : Option Node}
    : (Header.compileOptional setting (header.map Header.ofJson)).outcome = .done node
      ↔ (∀ value, header = some value → value.IsHeader)
        ∧ node = (header.bind object?).map (headerNode setting.options.locale) := by
  cases header with
  | none => simp [Header.compileOptional, Trace.done, eq_comm]
  | some value =>
      rcases Header.ofJson_cases value with ⟨is, fields, rfl, built⟩ | ⟨isNot, fault, faulty⟩
      · simp only [Option.map_some, Header.compileOptional, built, Option.bind_some, object?]
        constructor
        · intro ended
          cases ended
          exact ⟨fun other same => by cases same; exact is, rfl⟩
        · rintro ⟨_, rfl⟩
          rfl
      · constructor
        · intro ended
          rw [Option.map_some, faulty] at ended
          refine (Setting.fault_not_runs strict fault Path.header (?_ : Trace.Runs (α := Node) _)).elim
          exact Trace.optional_runs_iff.mp (Trace.runs_of_done ended)
        · rintro ⟨is, _⟩
          exact (isNot (is value rfl)).elim

-----------------------------------------------------------------------------------------
-- Bodies and documents
-----------------------------------------------------------------------------------------

/-- At the strict level the body comes to a result exactly when it is an array of elements of the
grammar, and the result is their nodes.
-/
theorem Body.compile_done_iff {setting : Setting} (strict : setting.options.level = .error)
    (positive : 1 ≤ setting.options.maxDepth) {elements : Option Json} {nodes : List Node}
    : ((Body.ofJson elements).compile setting).outcome = .done nodes
      ↔ ∃ entries,
          elements = some (.array entries)
          ∧ (∀ entry ∈ entries, entry.IsElement setting.options.maxDepth 1)
          ∧ nodes = entries.filterMap (elementNode? setting.options.locale) := by
  have refused (fault : Fault)
      : ((Body.faulty fault).compile setting).outcome ≠ .done nodes := by
    intro ended
    obtain ⟨checked, _⟩ := Trace.andThen_runs_iff.mp (Trace.runs_of_done ended)
    exact Setting.fault_not_runs strict fault Path.body (Trace.optional_runs_iff.mp checked)
  cases found : elements.bind array? with
  | none =>
      obtain ⟨fault, faulty⟩ := Body.ofJson_of_not_array found
      rw [faulty]
      constructor
      · exact fun ended => (refused fault ended).elim
      · rintro ⟨entries, rfl, _⟩
        simp [array?] at found
  | some entries =>
      obtain rfl := array_of_bind found
      rw [Body.compile_of_array, atLevel_of_le positive]
      constructor
      · intro ended
        have form : ∀ entry ∈ entries, entry.IsElement setting.options.maxDepth 1 := by
          intro entry member
          have runs := Trace.runs_of_done ended
          rw [Element.compileAll_eq, Trace.map_runs_iff, Trace.inOrder_map_items] at runs
          obtain ⟨_, entryRuns⟩ := Trace.inOrder_runs_at
            (fun position item => Trace.optional_not_dropped _) runs member
          exact Element.isElement_of_runs strict entry (Trace.optional_runs_iff.mp entryRuns)
        refine ⟨entries, rfl, form, ?_⟩
        have built := Element.compileAll_of_entries
          (fun entry member => (form entry member).compile rfl) Path.body 0
        rw [ended] at built
        exact Outcome.done.inj built
      · rintro ⟨_, same, form, rfl⟩
        cases same
        exact Element.compileAll_of_entries
          (fun entry member => (form entry member).compile rfl) Path.body 0

/-- The strict level accepts exactly the documents of the grammar, and what it builds from one is
the tree that the document stands for.
-/
theorem Document.compile_strict (document : Document) (locale : Option String) {maxDepth : Nat}
    (positive : 1 ≤ maxDepth)
    : ((∃ compilation,
          document.compile { level := .error, locale, maxDepth } = .ok compilation)
        ↔ document.Grammatical maxDepth)
      ∧ ∀ compilation,
          document.compile { level := .error, locale, maxDepth } = .ok compilation
          → compilation.tree = document.mirror locale := by
  have header := @Header.compileOptional_done_iff
    (document.setting { level := .error, locale, maxDepth }) rfl document.header
  have body := @Body.compile_done_iff
    (document.setting { level := .error, locale, maxDepth }) rfl positive document.elements
  constructor
  · constructor
    · rintro ⟨compilation, compiled⟩
      obtain ⟨node, nodes, headed, below, _⟩ := compile_ok_iff.mp compiled
      obtain ⟨entries, listed, form, _⟩ := body.mp below
      exact ⟨(header.mp headed).1, entries, listed, form⟩
    · rintro ⟨headerForm, entries, listed, form⟩
      have headed := header.mpr ⟨headerForm, rfl⟩
      have below := body.mpr ⟨entries, listed, form, rfl⟩
      exact ⟨⟨_, _⟩, compile_ok_iff.mpr ⟨_, _, headed, below, rfl, rfl⟩⟩
  · intro compilation compiled
    obtain ⟨node, nodes, headed, below, tree, _⟩ := compile_ok_iff.mp compiled
    obtain ⟨_, rfl⟩ := header.mp headed
    obtain ⟨entries, listed, _, rfl⟩ := body.mp below
    rw [tree, Document.mirror, listed]
    rfl

/-- A card with a title in several languages, a deferred element, and a set of columns in a
column of another set.
-/
def Document.nestedSets : Document where
  config := none
  header := some (.object
    [("template", .null),
      ("title", .object [("tag", .string "plain_text"), ("i18n", .object [])])])
  elements := some (.array
    [.object [("tag", .string "markdown")],
      .object
        [("tag", .string "column_set"),
          ("columns", .array
            [.object [],
              .object
                [("elements", .array
                  [.object
                    [("tag", .string "column_set"),
                      ("columns", .array [.object [("elements", .null)]])]])]])]])
  sourceId := 0

/-- The card with nested sets is in the grammar for two levels and is built as its tree.
Witness: evaluation of its compilation.
-/
theorem Document.nestedSets_strict
    : 1 ≤ 2
      ∧ Document.nestedSets.Grammatical 2
      ∧ ∃ compilation,
          Document.nestedSets.compile { level := .error, locale := some "en", maxDepth := 2 }
            = .ok compilation
          ∧ compilation.tree = Document.nestedSets.mirror (some "en") := by
  have twoLevels : 1 ≤ 2 := by decide
  have strict := Document.compile_strict Document.nestedSets (some "en") twoLevels
  exact ⟨twoLevels, strict.1.mp ⟨_, rfl⟩, _, rfl, strict.2 _ rfl⟩

end MessageCard
