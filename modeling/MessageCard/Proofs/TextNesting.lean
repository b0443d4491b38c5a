import Mathlib.Data.List.Infix
import MessageCard.Proofs.NestingLimit
import MessageCard.Proofs.OrderedFields

/-! How deep the values of a text are nested.  The reader opens no more containers inside one another
than its limit allows, and a level of the compilation takes four of them: the array of the entries,
a set, its array of columns and a column.  So the limit of nesting is never reached from a text when
it is as high as the default one.
-/

namespace MessageCard

namespace Json

-----------------------------------------------------------------------------------------
-- Containers
-----------------------------------------------------------------------------------------

/-- Whether the value is an array or an object. -/
def isContainer : Json → Bool
  | array _ => true
  | object _ => true
  | _ => false

/-- The number of containers that are open where the steps lead from the value: the value itself,
those on the way and the one at the end.
-/
def openAt (root : Json) (steps : List Step) : Nat :=
  steps.inits.countP fun before => (root.follow? before).any isContainer

variable {root inner : Json} {steps : List Step} {room : Nat}

/-- What steps lead out of is a container. -/
theorem isContainer_of_follow? {before after : List Step} (more : after ≠ [])
    (found : root.follow? (before ++ after) = some inner)
    : (root.follow? before).any isContainer = true := by
  rw [follow?_append] at found
  obtain ⟨middle, reached, onward⟩ := Option.bind_eq_some_iff.mp found
  rw [reached]
  cases after with
  | nil => exact (more rfl).elim
  | cons step rest =>
      cases middle with
      | array items => rfl
      | object fields => rfl
      | _ => simp [follow?] at onward

/-- All that is passed on the way to a container is a container, so each step opens one. -/
theorem openAt_eq_length (found : root.follow? steps = some inner)
    (container : inner.isContainer = true)
    : root.openAt steps = steps.length + 1 := by
  rw [openAt, List.countP_eq_length.mpr, List.length_inits]
  intro before listed
  obtain ⟨after, rfl⟩ := (List.mem_inits _ _).mp listed
  by_cases last : after = []
  · rw [last, List.append_nil] at found
    rw [found]
    exact container
  · exact isContainer_of_follow? last found

theorem openAt_concat (root : Json) (steps : List Step) (step : Step)
    : root.openAt (steps ++ [step])
      = root.openAt steps
        + if (root.follow? (steps ++ [step])).any isContainer = true then 1 else 0 := by
  simp [openAt, List.inits_append, List.countP_append, List.countP_singleton]

-----------------------------------------------------------------------------------------
-- The limit of the reader
-----------------------------------------------------------------------------------------

/-- The containers in the value are nested no deeper than there is room. -/
inductive NestedWithin : Nat → Json → Prop
  | null (room : Nat) : NestedWithin room null
  | bool (room : Nat) (value : Bool) : NestedWithin room (bool value)
  | number (room : Nat) (value : JsonNumber) : NestedWithin room (number value)
  | string (room : Nat) (value : String) : NestedWithin room (string value)
  | array {room : Nat} {items : List Json} (each : ∀ item ∈ items, NestedWithin room item)
    : NestedWithin (room + 1) (array items)
  | object {room : Nat} {fields : Fields} (each : ∀ field ∈ fields, NestedWithin room field.2)
    : NestedWithin (room + 1) (object fields)

/-- A field that is put into an object may be nested as deep as those that are there. -/
theorem NestedWithin.insertField {fields : Fields} {name : String} {value : Json}
    (nested : NestedWithin (room + 1) (.object fields)) (new : NestedWithin room value)
    : NestedWithin (room + 1) (.object (Json.insertField name value fields)) := by
  cases nested with
  | object each =>
      refine .object fun field member => ?_
      rcases mem_insertField member with rfl | old
      · exact new
      · exact each field old

/-- The reader keeps count of its room: a container takes one place of it. -/
theorem NestedWithin.invariant : Reader.Invariant NestedWithin where
  null := .null
  bool := .bool
  number := .number
  string := .string
  array each := .array each
  noFields _ := .object (by simp)
  insertField nested new := nested.insertField new

/-- Each step into a value takes one place of its room, so a container leaves one for itself.  By
induction on the steps.
-/
theorem NestedWithin.length_lt (nested : NestedWithin room root)
    (found : root.follow? steps = some inner) (container : inner.isContainer = true)
    : steps.length < room := by
  induction steps generalizing room root with
  | nil =>
      cases found
      cases nested with
      | array each => exact Nat.succ_pos _
      | object each => exact Nat.succ_pos _
      | _ => cases container
  | cons step rest ih =>
      cases nested with
      | @array room items each =>
          cases step with
          | index position =>
              obtain ⟨item, listed, onward⟩ := Option.bind_eq_some_iff.mp found
              have below := ih (each item (List.mem_of_getElem? listed)) onward
              exact Nat.succ_lt_succ below
          | field name => cases found
      | @object room fields each =>
          cases step with
          | field name =>
              obtain ⟨value, given, onward⟩ := Option.bind_eq_some_iff.mp found
              obtain ⟨before, after, shape, _⟩ := List.lookup_eq_some_iff.mp given
              have below := ih (each (name, value) (by simp [shape])) onward
              exact Nat.succ_lt_succ below
          | index position => cases found
      | _ => simp [follow?] at found

/-- No more containers are open anywhere than there is room.  By induction on the steps from their
end: a container there is the last of as many as there are steps, and itself.
-/
theorem NestedWithin.openAt_le (nested : NestedWithin room root) (steps : List Step)
    : root.openAt steps ≤ room := by
  induction steps using List.reverseRecOn with
  | nil =>
      cases nested with
      | array each => exact Nat.succ_pos _
      | object each => exact Nat.succ_pos _
      | _ => exact Nat.zero_le _
  | append_singleton steps step ih =>
      cases found : root.follow? (steps ++ [step]) with
      | none => simpa [openAt_concat, found] using ih
      | some inner =>
          cases container : inner.isContainer with
          | false => simpa [openAt_concat, found, container] using ih
          | true =>
              rw [openAt_eq_length found container]
              exact nested.length_lt found container

/-- No more containers are open anywhere in what is read than the limit of the reader allows. -/
theorem Reader.openAt_le_of_readText {text : List Char} (read : readText text = .ok root)
    (steps : List Step)
    : root.openAt steps ≤ nestingLimit :=
  (NestedWithin.invariant.readText read).openAt_le steps

end Json

open Json

-----------------------------------------------------------------------------------------
-- The levels of a compilation
-----------------------------------------------------------------------------------------

/-- The walk enters the array of entries at a path, on a level: the body, or the elements of a
column that it reaches in a set among the entries of an array that it enters.
-/
inductive Walk.Enters (walk : Walk) (document : Document) : Path → Nat → List Json → Prop
  | body {entries : List Json} (given : document.elements = some (.array entries))
    : Enters walk document Path.body 1 entries
  | column {path : Path} {level : Nat} {entries : List Json} {index : Nat} {fields : Fields}
    {columns : List Json} {position : Nat} {column : Json} {inner : List Json}
    (outer : Enters walk document path level entries)
    (found : entries[index]? = some (.object fields))
    (named : field? fields "tag" = some (.string ElementTag.columnSet.name))
    (listed : field? fields "columns" = some (.array columns))
    (reached : Reached walk.StopsSet columns position column)
    (shaped : column.columnEntries? = some inner) (occupied : inner ≠ [])
    : Enters walk document ((path.item index).columnElements position) (level + 1) inner

variable {walk : Walk} {document : Document}

/-- An array that is entered is where its path leads, and four steps were taken for each level but
the outermost.  By induction from the body inwards.
-/
theorem Walk.Enters.located {path : Path} {level : Nat} {entries : List Json}
    (entered : walk.Enters document path level entries)
    : document.value? path = some (.array entries) ∧ path.steps.length + 3 = 4 * level := by
  induction entered with
  | body given => exact ⟨Document.value?_body given, rfl⟩
  | column outer found named listed reached shaped occupied ih =>
      obtain ⟨leads, steps⟩ := ih
      have set := Document.value?_item leads found
      have column := Document.value?_item (Document.value?_field set listed) reached.listed
      obtain ⟨content, rfl, elements⟩ := elements_of_columnEntries shaped occupied
      refine ⟨Document.value?_field column elements, ?_⟩
      simp only [Path.columnElements, Path.field, Path.item, List.length_append,
        List.length_singleton]
      omega

mutual

/-- In an array that the cut walk enters, an exceeded limit is that of an array on the level above the
limit, which the walk enters too.  By mutual recursion along the offence, as in the two theorems that
follow.
-/
theorem Json.ListOffends.entered {limit : Nat} {path place : Path} {level : Nat}
    {entries : List Json} {cause : Cause}
    (entered : Walk.cut.Enters document path level entries) (le : level ≤ limit + 1)
    (exceeded : cause.IsDepthExceeded)
    : ListOffends limit path level entries place cause
      → ∃ inner, Walk.cut.Enters document place (limit + 1) inner
  | .depth deep => ⟨entries, Nat.le_antisymm le deep ▸ entered⟩
  | .entry within listed below => below.entered entered listed within rfl exceeded

theorem Json.EntryOffends.entered {limit : Nat} {outer path place : Path} {level : Nat}
    {entries : List Json} {position : Nat} {entry : Json} {cause : Cause}
    (entered : Walk.cut.Enters document outer level entries)
    (found : entries[position]? = some entry) (within : level ≤ limit)
    (there : path = outer.item position) (exceeded : cause.IsDepthExceeded)
    : EntryOffends limit path level entry place cause
      → ∃ inner, Walk.cut.Enters document place (limit + 1) inner
  | .tag _ _ => by cases exceeded with | intro _ same => cases same
  | .note _ _ _ below => by
      obtain ⟨⟨_, _, _, unknown⟩, _⟩ := below.isUnknownTag
      obtain ⟨payload, same⟩ := exceeded
      cases unknown.symm.trans same
  | .columnSet named listed reached below =>
      below.entered within
        (fun _ shaped occupied => there ▸ .column entered found named listed reached shaped occupied)
        exceeded

theorem Json.ColumnOffends.entered {limit : Nat} {path place : Path} {level : Nat}
    {column : Json} {cause : Cause} (within : level ≤ limit)
    (entered
      : ∀ inner,
          column.columnEntries? = some inner
          → inner ≠ []
          → Walk.cut.Enters document (path.field "elements") (level + 1) inner)
    (exceeded : cause.IsDepthExceeded)
    : ColumnOffends limit path level column place cause
      → ∃ inner, Walk.cut.Enters document place (limit + 1) inner
  | .entries shaped occupied below =>
      below.entered (entered _ shaped occupied) (Nat.succ_le_succ within) exceeded

end

/-- A body with an entry is an array. -/
theorem Document.elements_of_listed {position : Nat} {entry : Json}
    (listed : document.entries[position]? = some entry)
    : document.elements = some (.array document.entries) := by
  rcases given : document.elements with _ | value
  · simp [entries, given] at listed
  · cases value with
    | array items => simp [entries, given, array?]
    | _ => simp [entries, given, array?] at listed

/-- A compilation that fails for a limit of at least one level fails for the array on the next level,
which the cut walk enters at the path of the report.
-/
theorem Document.entered_of_depthExceeded {options : Options} {fatal : Diagnostic}
    (failed : document.compile options = .error fatal) (exceeded : fatal.cause.IsDepthExceeded)
    (positive : 0 < options.maxDepth)
    : ∃ path entries,
        fatal.path = some path
        ∧ Walk.cut.Enters document path (options.maxDepth + 1) entries := by
  obtain ⟨place, reported, offends⟩ := offends_of_depthExceeded failed exceeded
  generalize fatal.cause = cause at offends exceeded
  cases offends with
  | depth deep => omega
  | entry within listed below =>
      have body := elements_of_listed listed
      obtain ⟨inner, entered⟩ := below.entered (.body body) listed within rfl exceeded
      exact ⟨place, inner, reported, entered⟩

-----------------------------------------------------------------------------------------
-- Compilations of texts
-----------------------------------------------------------------------------------------

/-- What a walk enters in an object on a level is an array, and so many containers are open there. -/
theorem Walk.Enters.openAt {fields : Fields} {sourceId : Nat} {path : Path} {level : Nat}
    {entries : List Json}
    (entered : walk.Enters (Document.ofFields fields sourceId) path level entries)
    : (Json.object fields).follow? path.steps = some (.array entries)
      ∧ (Json.object fields).openAt path.steps = 4 * level - 2 := by
  obtain ⟨leads, steps⟩ := entered.located
  have found := Document.follow?_of_value leads
  refine ⟨found, ?_⟩
  rw [openAt_eq_length found rfl]
  omega

/-- A compilation of a text that fails for its limit has read an object, and fails in it. -/
theorem read_of_depthExceeded {source : String} {options : Options} {sourceId : Nat}
    {fatal : Diagnostic} (failed : compile source options sourceId = .error fatal)
    (exceeded : fatal.cause.IsDepthExceeded)
    : ∃ fields,
        Reader.read source = .ok (.object fields)
        ∧ (Document.ofFields fields sourceId).compile options = .error fatal := by
  obtain ⟨limit, exceeded⟩ := exceeded
  simp only [compile, Document.read] at failed
  split at failed
  · rename_i document read
    split at read
    · cases read
    · rename_i fields found
      cases read
      exact ⟨fields, found, failed⟩
    · cases read
  · -- a text that is refused is malformed, and not too deep
    cases failed
    cases exceeded

/-- A text that the reader refuses is malformed, whatever it refuses it for. -/
theorem malformed_of_refused {source : String} {failure : Reader.Failure}
    (refused : Reader.read source = .error failure) (options : Options) (sourceId : Nat)
    : ∃ fatal message,
        compile source options sourceId = .error fatal
        ∧ fatal.cause = .malformedDocument message := by
  have unread : Reader.readText source.toList = .error failure := refused
  simp only [compile, Document.read, unread]
  exact ⟨_, _, rfl, rfl⟩

/-- A level that is entered in what is read is at most 32: on level 33 the array would be the container
of number 130.
-/
theorem Walk.Enters.level_le {source : String} {fields : Fields} {sourceId : Nat} {path : Path}
    {level : Nat} {entries : List Json}
    (read : Reader.read source = .ok (.object fields))
    (entered : walk.Enters (Document.ofFields fields sourceId) path level entries)
    : level ≤ 32 := by
  have bounded : (Json.object fields).openAt path.steps ≤ 127 :=
    Reader.openAt_le_of_readText read path.steps
  have number := entered.openAt.2
  omega

/-- From a text the default limit of nesting is never exceeded.  The reader opens no more than 127
containers inside one another, and what it refuses is malformed.  An array of entries that is entered
on a level is the container of number `4 * level - 2` in the text; so no text has an array on a level
above 32.  An exceeded limit is reported for the array on the next level, which is that container of
the text.
-/
theorem compile_text_nesting (source : String) (options : Options) (sourceId : Nat)
    : (∀ root, Reader.read source = .ok root → ∀ steps, root.openAt steps < 128)
      ∧ (∀ failure,
        Reader.read source = .error failure
        → ∃ fatal message,
            compile source options sourceId = .error fatal
            ∧ fatal.cause = .malformedDocument message)
      ∧ (∀ fields,
        Reader.read source = .ok (.object fields)
        → ∀ (walk : Walk) (path : Path) (level : Nat) (entries : List Json),
            walk.Enters (Document.ofFields fields sourceId) path level entries
            → (Json.object fields).follow? path.steps = some (.array entries)
              ∧ (Json.object fields).openAt path.steps = 4 * level - 2)
      ∧ (∀ fatal,
        compile source options sourceId = .error fatal
        → fatal.cause.IsDepthExceeded
        → 0 < options.maxDepth
        → ∃ fields path entries,
            Reader.read source = .ok (.object fields)
            ∧ fatal.path = some path
            ∧ Walk.cut.Enters (Document.ofFields fields sourceId) path (options.maxDepth + 1)
                entries)
      ∧ (32 ≤ options.maxDepth
        → ∀ fatal,
            compile source options sourceId = .error fatal → ¬ fatal.cause.IsDepthExceeded) := by
  have entered (fatal : Diagnostic)
      (failed : compile source options sourceId = .error fatal)
      (exceeded : fatal.cause.IsDepthExceeded) (positive : 0 < options.maxDepth)
      : ∃ fields path entries,
          Reader.read source = .ok (.object fields)
          ∧ fatal.path = some path
          ∧ Walk.cut.Enters (Document.ofFields fields sourceId) path (options.maxDepth + 1)
              entries := by
    obtain ⟨fields, read, fails⟩ := read_of_depthExceeded failed exceeded
    obtain ⟨path, entries, reported, there⟩ :=
      Document.entered_of_depthExceeded fails exceeded positive
    exact ⟨fields, path, entries, read, reported, there⟩
  refine ⟨fun root read steps => ?_,
    fun failure refused => malformed_of_refused refused options sourceId,
    fun fields _ walk path level entries => Walk.Enters.openAt, entered,
    fun generous fatal failed exceeded => ?_⟩
  · exact Nat.lt_succ_of_le (Reader.openAt_le_of_readText read steps)
  · obtain ⟨fields, path, entries, read, _, there⟩ :=
      entered fatal failed exceeded (by omega)
    have within := there.level_le read
    omega

/-- The text of a card with a rule in a set. -/
def framedRule : String :=
  Json.compact (.object
    [("elements", .array
      [.object
        [("columns", .array
            [.object [("elements", .array [.object [("tag", .string "hr")]])]]),
          ("tag", .string "column_set")]])])

/-- Under a limit of one level the framed rule is too deep: it stands in an array that is the sixth
container of the text.  Under the default limit it is not.  Witness: evaluation of the compilation
under the low limit.
-/
theorem framedRule_nesting
    : (∃ fatal fields path,
        compile framedRule { maxDepth := 1 } 0 = .error fatal
        ∧ fatal.cause.IsDepthExceeded
        ∧ fatal.path = some path
        ∧ Reader.read framedRule = .ok (.object fields)
        ∧ (Json.object fields).openAt path.steps = 6)
      ∧ ∀ fatal,
          compile framedRule {} 0 = .error fatal → ¬ fatal.cause.IsDepthExceeded := by
  obtain ⟨_, _, number, reported, _⟩ := compile_text_nesting framedRule { maxDepth := 1 } 0
  obtain ⟨_, _, _, _, never⟩ := compile_text_nesting framedRule {} 0
  refine ⟨?_, never (Nat.le_refl 32)⟩
  have evaluated
      : ((compile framedRule { maxDepth := 1 } 0).map fun _ => ()).mapError (·.cause)
        = .error (.depthExceeded 1) := by
    decide +kernel
  cases stops : compile framedRule { maxDepth := 1 } 0 with
  | ok compilation =>
      rw [stops] at evaluated
      cases evaluated
  | error fatal =>
      rw [stops] at evaluated
      have exceeded : fatal.cause.IsDepthExceeded := ⟨1, Except.error.inj evaluated⟩
      obtain ⟨fields, path, entries, read, found, entered⟩ :=
        reported fatal stops exceeded Nat.one_pos
      have sixth := (number fields read Walk.cut path 2 entries entered).2
      exact ⟨fatal, fields, path, rfl, exceeded, found, read, sixth⟩

end MessageCard
