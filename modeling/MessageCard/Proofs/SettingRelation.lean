import MessageCard.Compilation.Card
import MessageCard.Proofs.TraceAlgebra

/-! Compiling one card under two settings, at one place or at two.  A relation between traces that
survives sequencing and skipping, and that the two settings keep where they treat a fault, a tag or
a level, relates the two compilations as wholes.  The induction over cards is done here once.
-/

namespace MessageCard

/-- The relation between traces survives every way in which traces are put together. -/
structure TraceRelation (Related : ∀ α : Type, Trace α → Trace α → Prop) : Prop where
  done : ∀ {α : Type} (result : α), Related α (.done result) (.done result)
  andThen
    : ∀ {α β : Type} {left right : Trace α} {next other : α → Trace β},
        Related α left right
        → (∀ result, Related β (next result) (other result))
        → Related β (left.andThen next) (right.andThen other)
  optional
    : ∀ {α : Type} {left right : Trace α},
        Related α left right → Related (Option α) left.optional right.optional

/-- The two settings show texts alike, and what they make of a fault, a deferred tag, an unknown
tag or a level of nesting is related.
-/
structure SettingRelation (Related : ∀ α : Type, Trace α → Trace α → Prop)
    (left right : Setting) : Prop where
  locale : left.options.locale = right.options.locale
  fault
    : ∀ {α : Type} (fault : Fault) (path : Path),
        Related α (left.fault fault path) (right.fault fault path)
  defer
    : ∀ {α : Type} (tag : ElementTag) (path : Path),
        Related α (left.defer tag path) (right.defer tag path)
  unknown
    : ∀ {α : Type} (field : TagField) (tag allowed : String) (path : Path),
        Related α (left.abort (.unknownTag field tag allowed) path)
          (right.abort (.unknownTag field tag allowed) path)
  atLevel
    : ∀ {α : Type} (path : Path) (level : Nat) {below other : Trace α},
        Related α below other
        → Related α (atLevel left path level below) (atLevel right path level other)

/-- The move takes one place to the other, and along with it all places below. -/
def Path.Carries (move : Path → Path) (path other : Path) : Prop :=
  ∀ rest, move { steps := path.steps ++ rest } = { steps := other.steps ++ rest }

theorem Path.carries_id (path : Path) : Path.Carries id path path :=
  fun _ => rfl

theorem Path.Carries.move_eq {move : Path → Path} {path other : Path}
    (carries : Path.Carries move path other)
    : move path = other := by
  have here := carries []
  rwa [List.append_nil, List.append_nil] at here

theorem Path.Carries.field {move : Path → Path} {path other : Path}
    (carries : Path.Carries move path other) (name : String)
    : Path.Carries move (path.field name) (other.field name) := by
  intro rest
  have below := carries (.field name :: rest)
  simpa only [Path.field, List.append_assoc, List.singleton_append] using below

theorem Path.Carries.item {move : Path → Path} {path other : Path}
    (carries : Path.Carries move path other) (position : Nat)
    : Path.Carries move (path.item position) (other.item position) := by
  intro rest
  have below := carries (.index position :: rest)
  simpa only [Path.item, List.append_assoc, List.singleton_append] using below

/-- The items of a list that is carried along keep their positions. -/
theorem Path.Carries.items {move : Path → Path} {path other : Path}
    (carries : Path.Carries move path other) (position : Nat)
    : Path.Carries move (path.item position) (other.item (position + 0)) :=
  carries.item position

/-- What the settings make of a fault, a tag or a level is related where the right one meets it at
the place that the move leads to, so many levels deeper.
-/
structure Relocation (Related : ∀ α : Type, Trace α → Trace α → Prop) (move : Path → Path)
    (deeper : Nat) (left right : Setting) : Prop where
  locale : left.options.locale = right.options.locale
  fault
    : ∀ {α : Type} (fault : Fault) (path : Path),
        Related α (left.fault fault path) (right.fault fault (move path))
  defer
    : ∀ {α : Type} (tag : ElementTag) (path : Path),
        Related α (left.defer tag path) (right.defer tag (move path))
  unknown
    : ∀ {α : Type} (field : TagField) (tag allowed : String) (path : Path),
        Related α (left.abort (.unknownTag field tag allowed) path)
          (right.abort (.unknownTag field tag allowed) (move path))
  atLevel
    : ∀ {α : Type} (path : Path) (level : Nat) {below other : Trace α},
        Related α below other
        → Related α (atLevel left path level below)
            (atLevel right (move path) (level + deeper) other)

variable {Related : ∀ α : Type, Trace α → Trace α → Prop} {left right : Setting}
  {move : Path → Path} {deeper : Nat}

/-- Settings that are related at each place are so without a move. -/
theorem SettingRelation.relocation (settings : SettingRelation Related left right)
    : Relocation Related id 0 left right where
  locale := settings.locale
  fault := settings.fault
  defer := settings.defer
  unknown := settings.unknown
  atLevel := settings.atLevel

/-- Changing results alike keeps traces related, as a sequence that ends in a result. -/
theorem TraceRelation.map (relation : TraceRelation Related) {α β : Type} (f : α → β)
    {trace other : Trace α} (related : Related α trace other)
    : Related β (trace.map f) (other.map f) :=
  relation.andThen related (fun result => relation.done (f result))

/-- Settings with one locale show texts alike; witness: the locale is all that is read. -/
theorem Relocation.display_eq (settings : Relocation Related move deeper left right)
    : left.display = right.display := by
  funext text
  simp only [Setting.display, settings.locale]

/-- The children of a note are compiled alike at both places, by cases on the child. -/
theorem Child.compile_moved (relation : TraceRelation Related)
    (settings : Relocation Related move deeper left right) {path other : Path}
    (carries : Path.Carries move path other) (child : Child)
    : Related Node (child.compile left path) (child.compile right other) := by
  rw [← carries.move_eq]
  cases child with
  | faulty fault => exact settings.fault fault path
  | unknown tag => exact settings.unknown _ tag _ path
  | plain content => exact relation.done _
  | markdown content => exact relation.done _
  | image image preview =>
      simp only [Child.compile, Node.embeddedImage, settings.display_eq]
      exact relation.done _

theorem Child.compileAll_moved (relation : TraceRelation Related)
    (settings : Relocation Related move deeper left right) {path other : Path}
    (carries : Path.Carries move path other) (children : List Child) (index : Nat)
    : Related (List Node) (Child.compileAll left path index children)
        (Child.compileAll right other index children) := by
  induction children generalizing index with
  | nil => exact relation.done []
  | cons child rest ih =>
      have first := Child.compile_moved relation settings (carries.item index) child
      exact relation.andThen first (fun node => relation.map (node :: ·) (ih (index + 1)))

mutual

/-- An element is compiled alike at both places; mutual induction on elements and columns. -/
theorem Element.compile_moved (relation : TraceRelation Related)
    (settings : Relocation Related move deeper left right) {path other : Path}
    (carries : Path.Carries move path other) (level : Nat) (element : Element)
    : Related Node (element.compile left path level)
        (element.compile right other (level + deeper)) := by
  cases element with
  | faulty fault =>
      rw [← carries.move_eq]
      exact settings.fault fault path
  | unknown tag =>
      rw [← carries.move_eq]
      exact settings.unknown _ tag _ path
  | deferred tag =>
      rw [← carries.move_eq]
      exact settings.defer tag path
  | div content => exact relation.done _
  | hr => exact relation.done _
  | img image compact width =>
      simp only [Element.compile, Node.image, settings.display_eq]
      exact relation.done _
  | note children =>
      simp only [Element.compile]
      exact relation.map _
        (Child.compileAll_moved relation settings (carries.field "elements") children 0)
  | columnSet columns =>
      simp only [Element.compile]
      exact relation.map _
        (Column.compileAll_moved relation settings (carries.field "columns") level 0 columns)
termination_by sizeOf element

/-- Lists of elements are compiled alike, with the dropped ones skipped alike; the move may also
take the items to later positions.
-/
theorem Element.compileAll_moved (relation : TraceRelation Related)
    (settings : Relocation Related move deeper left right) {path other : Path} {offset : Nat}
    (carries
      : ∀ position, Path.Carries move (path.item position) (other.item (position + offset)))
    (level index : Nat) (elements : List Element)
    : Related (List Node) (Element.compileAll left path level index elements)
        (Element.compileAll right other (level + deeper) (index + offset) elements) := by
  cases elements with
  | nil =>
      simp only [Element.compileAll]
      exact relation.done []
  | cons element rest =>
      have first := Element.compile_moved relation settings (carries index) level element
      have later := Element.compileAll_moved relation settings carries level (index + 1) rest
      rw [Nat.add_right_comm] at later
      simp only [Element.compileAll]
      exact relation.andThen (relation.optional first) (fun node => relation.map _ later)
termination_by sizeOf elements

theorem Column.compileAll_moved (relation : TraceRelation Related)
    (settings : Relocation Related move deeper left right) {path other : Path}
    (carries : Path.Carries move path other) (level index : Nat) (columns : List Column)
    : Related (List Node) (Column.compileAll left path level index columns)
        (Column.compileAll right other (level + deeper) index columns) := by
  cases columns with
  | nil =>
      simp only [Column.compileAll]
      exact relation.done []
  | cons column rest =>
      have first := Column.compile_moved relation settings (carries.item index) level column
      have later := Column.compileAll_moved relation settings carries level (index + 1) rest
      simp only [Column.compileAll]
      exact relation.andThen first (fun node => relation.map _ later)
termination_by sizeOf columns

theorem Column.compile_moved (relation : TraceRelation Related)
    (settings : Relocation Related move deeper left right) {path other : Path}
    (carries : Path.Carries move path other) (level : Nat) (column : Column)
    : Related Node (column.compile left path level)
        (column.compile right other (level + deeper)) := by
  match column with
  | .faulty fault =>
      rw [← carries.move_eq]
      exact settings.fault fault path
  | .elements [] =>
      simp only [Column.compile]
      exact relation.done _
  | .elements (first :: rest) =>
      have inner := carries.field "elements"
      have below := Element.compileAll_moved relation settings inner.items (level + 1) 0
        (first :: rest)
      have within := settings.atLevel (path.field "elements") (level + 1) below
      rw [inner.move_eq, Nat.add_right_comm] at within
      simp only [Column.compile]
      exact relation.map _ within
termination_by sizeOf column

end

-----------------------------------------------------------------------------------------
-- Whole cards, at one place
-----------------------------------------------------------------------------------------

/-- A header is compiled alike, whether it is there or not. -/
theorem Header.compileOptional_related (relation : TraceRelation Related)
    (settings : SettingRelation Related left right) (header : Option Header)
    : Related (Option Node) (Header.compileOptional left header)
        (Header.compileOptional right header) := by
  rcases header with _ | (fault | ⟨template, title⟩)
  · exact relation.done none
  · exact relation.optional (settings.fault fault Path.header)
  · simp only [Header.compileOptional, Header.compile, settings.relocation.display_eq]
    exact relation.optional (relation.done _)

/-- A body is compiled alike: its own fault first, then its elements. -/
theorem Body.compile_related (relation : TraceRelation Related)
    (settings : SettingRelation Related left right) (body : Body)
    : Related (List Node) (body.compile left) (body.compile right) := by
  have checked : Related (Option Unit) (body.check left) (body.check right) := by
    cases body with
    | faulty fault => exact relation.optional (settings.fault fault Path.body)
    | elements items => exact relation.done (some ())
  have elements := Element.compileAll_moved relation settings.relocation
    Path.body.carries_id.items 1 0 body.items
  exact relation.andThen checked (fun _ => settings.atLevel _ _ elements)

/-- A card is compiled alike under related settings. -/
theorem Card.compile_related (relation : TraceRelation Related)
    (settings : SettingRelation Related left right) (card : Card)
    : Related Node (card.compile left) (card.compile right) :=
  relation.andThen (Header.compileOptional_related relation settings card.header)
    (fun header => relation.map (Node.card header) (card.body.compile_related relation settings))

end MessageCard
