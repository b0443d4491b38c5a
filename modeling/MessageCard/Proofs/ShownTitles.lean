import MessageCard.Proofs.LocaleIndependence
import MessageCard.Proofs.ReportAccounting
import MessageCard.Proofs.StrictAcceptance

/-! Titles that can be shown.  A text that is shown in some locale counts as populated.  The other
way round this holds of every text but one whose table of variants has nothing to show, which counts
as populated and is blank in every locale.
-/

namespace MessageCard

open Json

-----------------------------------------------------------------------------------------
-- Texts
-----------------------------------------------------------------------------------------

namespace LocalizedText

/-- The text has a table of variants, but nothing to show: its content is missing or empty, and so
is every entry of the table.
-/
structure IsBlankTable (text : LocalizedText) : Prop where
  content : ∀ content, text.content = some content → content = ""
  variants
    : ∃ table,
        text.variants = some table
        ∧ ∀ locale entry, table.lookup locale = some entry → entry = ""

variable {text : LocalizedText}

/-- A content that is not empty is shown at least where no locale is set. -/
theorem resolve_of_content {content : String} (found : text.content = some content)
    (filled : content ≠ "")
    : text.resolve none = content :=
  resolve_eq_iff.mpr (.content (fun _ ⟨_, _, chosen, _⟩ => nomatch chosen) found filled)

/-- An entry that is not empty is shown in its locale. -/
theorem resolve_of_entry {table : List (String × String)} {locale entry : String}
    (variants : text.variants = some table) (found : table.lookup locale = some entry)
    (filled : entry ≠ "")
    : text.resolve (some locale) = entry :=
  resolve_eq_iff.mpr (.variant ⟨locale, table, rfl, variants, found⟩ filled)

/-- A text without anything to show is blank in every locale. -/
theorem IsBlankTable.resolve_eq (blank : text.IsBlankTable) (locale : Option String)
    : text.resolve locale = "" := by
  obtain ⟨table, variants, empty⟩ := blank.variants
  refine resolve_eq_iff.mpr (.nothing ?_ blank.content)
  rintro entry ⟨name, other, _, found, listed⟩
  cases variants.symm.trans found
  exact empty name entry listed

/-- What is shown makes the text count as populated. -/
theorem isPopulated_of_resolve {locale : Option String} (shown : text.resolve locale ≠ "")
    : text.isPopulated = true := by
  rw [isPopulated, Bool.or_eq_true]
  have shows := text.resolve_shows locale
  generalize text.resolve locale = value at shows shown
  cases shows with
  | variant variant _ =>
      obtain ⟨_, table, _, found, _⟩ := variant
      right
      rw [found]
      rfl
  | content _ found filled =>
      left
      rw [found]
      exact bne_iff_ne.mpr filled
  | nothing _ _ => exact (shown rfl).elim

/-- A populated text is shown somewhere, unless it is blank.  Cases on the content and then on
whether an entry of the table is more than empty.
-/
theorem exists_resolve_of_isPopulated (populated : text.isPopulated = true)
    (notBlank : ¬ text.IsBlankTable)
    : ∃ locale, text.resolve locale ≠ "" := by
  by_contra nothing
  have blank : ∀ locale, text.resolve locale = "" := by
    intro locale
    by_contra shown
    exact nothing ⟨locale, shown⟩
  have content : ∀ content, text.content = some content → content = "" := by
    intro content found
    by_contra filled
    exact filled ((resolve_of_content found filled).symm.trans (blank none))
  cases variants : text.variants with
  | none =>
      rw [isPopulated, variants, Option.isSome_none, Bool.or_false] at populated
      obtain ⟨found, given, filled⟩ := (Option.any_eq_true _ _).mp populated
      exact bne_iff_ne.mp filled (content found given)
  | some table =>
      refine notBlank ⟨content, table, variants, ?_⟩
      intro locale entry found
      by_contra filled
      exact filled ((resolve_of_entry variants found filled).symm.trans (blank (some locale)))

end LocalizedText

-----------------------------------------------------------------------------------------
-- Headers
-----------------------------------------------------------------------------------------

/-- At every level a header comes to a node exactly when it is a header of the grammar. -/
theorem Header.compileOptional_shown_iff (setting : Setting) {header : Option Json} {node : Node}
    : (Header.compileOptional setting (header.map Header.ofJson)).outcome = .done (some node)
      ↔ ∃ fields,
          header = some (.object fields)
          ∧ (Json.object fields).IsHeader
          ∧ node = headerNode setting.options.locale fields := by
  cases header with
  | none =>
      refine iff_of_false (fun ended => by cases ended) ?_
      rintro ⟨fields, absent, _⟩
      cases absent
  | some value =>
      rcases Header.ofJson_cases value with ⟨is, fields, rfl, built⟩ | ⟨isNot, fault, faulty⟩
      · rw [Option.map_some, Header.compileOptional, built]
        constructor
        · intro ended
          cases ended
          exact ⟨fields, rfl, is, rfl⟩
        · rintro ⟨_, same, _, rfl⟩
          cases same
          rfl
      · rw [Option.map_some, Header.compileOptional, faulty]
        constructor
        · intro ended
          exact (Setting.fault_not_done (Trace.optional_some_iff.mp ended)).elim
        · rintro ⟨fields, same, is, _⟩
          cases same
          exact (isNot is).elim

namespace Document

/-- The text of the header in the tree of the document, where it compiles with a header. -/
def headerText? (document : Document) (options : Options) : Option String :=
  match document.compile options with
  | .ok compilation => (compilation.tree.child .header).bind Node.text
  | .error _ => none

variable {document : Document}

/-- The header of a tree is the node of a header of the grammar. -/
theorem headerText?_eq_some_iff {options : Options} {shown : String}
    : document.headerText? options = some shown
      ↔ (∃ compilation, document.compile options = .ok compilation)
        ∧ ∃ fields,
            document.header = some (.object fields)
            ∧ (Json.object fields).IsHeader
            ∧ shown
              = (LocalizedText.ofFields (fieldsOf fields "title")).resolve options.locale := by
  rw [headerText?]
  cases compiled : document.compile options with
  | error fatal =>
      refine iff_of_false nofun ?_
      rintro ⟨⟨_, same⟩, _⟩
      cases same
  | ok compilation =>
      obtain ⟨header, nodes, headed, _, tree, _⟩ := compile_ok_iff.mp compiled
      have child : compilation.tree.child .header = header :=
        tree ▸ (Node.card_child (Header.kind_of_compileOptional headed) nodes).1
      change (compilation.tree.child .header).bind Node.text = some shown ↔ _
      rw [child]
      constructor
      · intro found
        obtain ⟨node, rfl, text⟩ := Option.bind_eq_some_iff.mp found
        obtain ⟨fields, given, is, rfl⟩ := (Header.compileOptional_shown_iff _).mp headed
        exact ⟨⟨compilation, rfl⟩, fields, given, is, (Option.some.inj text).symm⟩
      · rintro ⟨_, fields, given, is, rfl⟩
        have shown := (Header.compileOptional_shown_iff (document.setting options)).mpr
          ⟨fields, given, is, rfl⟩
        obtain rfl := Outcome.done.inj (headed.symm.trans shown)
        rfl

/-- A document that compiles in one locale compiles in every other. -/
theorem compiles_in_locale {level : Level} {maxDepth : Nat} {locale : Option String}
    (compiles : ∃ compilation, document.compile { level, locale, maxDepth } = .ok compilation)
    (other : Option String)
    : ∃ compilation, document.compile { level, locale := other, maxDepth } = .ok compilation := by
  have wording : Wording (fun _ value other => other = value ∧ True) (fun _ => True) Eq :=
    .of_hereditary (fun _ _ _ => trivial) (fun _ _ => trivial) (fun _ => trivial) trivial
      fun _ => trivial
  have akin : document.AkinIn (fun _ value other => other = value ∧ True) document :=
    .self (fun _ _ => trivial) fun _ _ => trivial
  have alike := compile_alike wording akin
    (Setting.wordless_likeness level maxDepth document.sourceId locale other)
  obtain ⟨compilation, compiled⟩ := compiles
  rw [compiled] at alike
  generalize document.compile { level, locale := other, maxDepth } = outcome at alike
  cases alike with
  | ok trees warnings => exact ⟨_, rfl⟩

/-- A header that is compiled in one locale is compiled in every other.  Its title is populated, and
its text is what the title shows there.
-/
theorem headerText?_in_locales {level : Level} {maxDepth : Nat} {locale : Option String}
    {shown : String} (found : document.headerText? { level, locale, maxDepth } = some shown)
    : ∃ fields title,
        document.header = some (.object fields)
        ∧ field? fields "title" = some (.object title)
        ∧ (LocalizedText.ofFields title).isPopulated = true
        ∧ ∀ other,
            document.headerText? { level, locale := other, maxDepth }
            = some ((LocalizedText.ofFields title).resolve other) := by
  obtain ⟨compiles, fields, given, is, _⟩ := headerText?_eq_some_iff.mp found
  have form := is
  obtain ⟨_, title, same, listed, hasTitle, _⟩ := form
  cases same
  have titled : fieldsOf fields "title" = title := by
    rw [fieldsOf, objectField?_eq_some_iff.mpr listed]
    rfl
  refine ⟨fields, title, given, listed, isPopulated_iff.mpr hasTitle.2, ?_⟩
  intro other
  apply headerText?_eq_some_iff.mpr
  refine ⟨compiles_in_locale compiles other, fields, given, is, ?_⟩
  rw [titled]

end Document

/-- A text that is shown in some locale, or where none is set, counts as populated; the other way
round this holds exactly of the texts that are not blank tables.  So a header that compiles to a
node is shown in some locale exactly when its title is no blank table.
-/
theorem LocalizedText.isPopulated_iff_shown (text : LocalizedText) (document : Document)
    (level : Level) (maxDepth : Nat)
    : ((∃ locale, text.resolve locale ≠ "") → text.isPopulated = true)
      ∧ ((text.isPopulated = true ↔ ∃ locale, text.resolve locale ≠ "") ↔ ¬ text.IsBlankTable)
      ∧ ∀ locale shown,
          document.headerText? { level, locale, maxDepth } = some shown
          → ∃ fields title,
              document.header = some (.object fields)
              ∧ field? fields "title" = some (.object title)
              ∧ ((∃ other text,
                    document.headerText? { level, locale := other, maxDepth } = some text
                    ∧ text ≠ "")
                  ↔ ¬ (LocalizedText.ofFields title).IsBlankTable) := by
  have populates (shown : ∃ locale, text.resolve locale ≠ "") : text.isPopulated = true := by
    obtain ⟨locale, shown⟩ := shown
    exact isPopulated_of_resolve shown
  refine ⟨populates, ⟨?blank, ?filled⟩, ?header⟩
  case blank =>
    intro agree blank
    have populated : text.isPopulated = true := by
      obtain ⟨table, variants, _⟩ := blank.variants
      rw [isPopulated, variants, Option.isSome_some, Bool.or_true]
    obtain ⟨locale, shown⟩ := agree.mp populated
    exact shown (blank.resolve_eq locale)
  case filled =>
    intro notBlank
    exact ⟨fun populated => exists_resolve_of_isPopulated populated notBlank, populates⟩
  case header =>
    intro locale shown found
    obtain ⟨fields, title, given, listed, populated, texts⟩ :=
      Document.headerText?_in_locales found
    refine ⟨fields, title, given, listed, ?_, ?_⟩
    · intro shown blank
      obtain ⟨other, text, same, filled⟩ := shown
      apply filled
      rw [← blank.resolve_eq other]
      exact Option.some.inj (same.symm.trans (texts other))
    · intro notBlank
      obtain ⟨other, filled⟩ := exists_resolve_of_isPopulated populated notBlank
      exact ⟨other, _, texts other, filled⟩

/-- A document whose title has a text in French alone. -/
def Document.frenchTitle : Document where
  config := none
  header := some (.object
    [("title", .object
      [("i18n", .object [("fr", .string "Bonjour")]), ("tag", .string "plain_text")])])
  elements := some (.array [])
  sourceId := 0

/-- The title in French is blank where no locale is set, but there is a locale that shows it. -/
theorem Document.frenchTitle_shown
    : frenchTitle.headerText? { level := .error, locale := none, maxDepth := 1 } = some ""
      ∧ ∃ other text,
          frenchTitle.headerText? { level := .error, locale := other, maxDepth := 1 } = some text
          ∧ text ≠ "" := by
  have blankHere
      : frenchTitle.headerText? { level := .error, locale := none, maxDepth := 1 } = some "" :=
    rfl
  refine ⟨blankHere, ?_⟩
  let french : LocalizedText := { content := none, variants := some [("fr", "Bonjour")] }
  obtain ⟨_, _, headers⟩ := LocalizedText.isPopulated_iff_shown french frenchTitle .error 1
  obtain ⟨fields, title, given, listed, shown⟩ := headers none "" blankHere
  apply shown.mpr
  cases given
  cases listed
  intro blank
  obtain ⟨table, variants, empty⟩ := blank.variants
  cases variants
  exact absurd (empty "fr" "Bonjour" rfl) (by decide)

/-- A title with an empty table of variants passes for populated, compiles to a header at the level
of errors, and is blank in every locale.
-/
theorem Document.emptyTable_blank
    : let title := [("i18n", Json.object []), ("tag", .string "plain_text")]
      let document : Document :=
        { config := none, header := some (.object [("title", .object title)]),
          elements := some (.array []), sourceId := 0 }
      (LocalizedText.ofFields title).isPopulated = true
      ∧ (¬ ∃ locale, (LocalizedText.ofFields title).resolve locale ≠ "")
      ∧ ∀ locale,
          document.headerText? { level := .error, locale, maxDepth := 1 } = some "" := by
  refine ⟨rfl, ?_, ?_⟩
  · intro ⟨locale, shown⟩
    cases locale with
    | none => exact shown rfl
    | some name => exact shown rfl
  · intro locale
    cases locale with
    | none => rfl
    | some name => rfl

end MessageCard
