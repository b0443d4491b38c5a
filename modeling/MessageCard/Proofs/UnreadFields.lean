import MessageCard.Proofs.AlikeCompilation
import MessageCard.Proofs.CompactText
import MessageCard.Proofs.OrderedFields

/-! Fields that are not read.  Objects that agree in the fields read, at every place of a document,
are compiled to the same tree with the same warnings, or to the same fatal report; what stands in
any other field is never looked at, not even by the wording of a report.
-/

namespace MessageCard

open Json Document

/-- The values are the same when they are read as the part: they are one value, or objects with
the same values in the fields that are read, or lists of items that are the same one by one.
-/
inductive Json.SameFor : Part → Json → Json → Prop
  | refl (part : Part) (value : Json) : SameFor part value value
  | object {part : Part} {fields others : Fields} {names : List (String × Part)}
    (reads : part.reads? fields = some names)
    (present
      : ∀ name inner,
          (name, inner) ∈ names → (field? fields name).isSome = (field? others name).isSome)
    (each
      : ∀ name inner value other,
          (name, inner) ∈ names
          → field? fields name = some value
          → field? others name = some other
          → SameFor inner value other)
    : SameFor part (.object fields) (.object others)
  | array {part inner : Part} {items others : List Json} (lists : part.items? = some inner)
    (length : items.length = others.length)
    (each : ∀ value other, (value, other) ∈ items.zip others → SameFor inner value other)
    : SameFor part (.array items) (.array others)

namespace Json

variable {part inner : Part} {value other : Json} {fields others : Fields}
  {names : List (String × Part)} {name : String}

/-- What is read as it stands is the same only if it is one value. -/
theorem SameFor.plain_eq (same : SameFor .plain value other) : other = value := by
  cases same with
  | refl => rfl
  | object reads _ _ => cases reads
  | array lists _ _ => cases lists

theorem SameFor.isNull_eq (same : SameFor part value other) : other.isNull = value.isNull := by
  cases same <;> rfl

/-- A field that is read is missing from both objects, or has the same value in both. -/
theorem SameFor.field_rel (same : SameFor part (.object fields) (.object others))
    (reads : part.reads? fields = some names) (listed : (name, inner) ∈ names)
    : Option.Rel (SameFor inner) (field? fields name) (field? others name) := by
  cases same with
  | refl =>
      cases field? fields name with
      | none => exact .none
      | some value => exact .some (.refl inner value)
  | object again present each =>
      obtain rfl := Option.some.inj (again.symm.trans reads)
      have shown := present name inner listed
      cases found : field? fields name with
      | none =>
          have missing : field? others name = none := by simpa [found] using shown.symm
          rw [missing]
          exact .none
      | some value =>
          rw [found] at shown
          obtain ⟨other, given⟩ := Option.isSome_iff_exists.mp shown.symm
          rw [given]
          exact .some (each name inner value other listed found given)

theorem SameFor.presentField_rel (same : SameFor part (.object fields) (.object others))
    (reads : part.reads? fields = some names) (listed : (name, inner) ∈ names)
    : Option.Rel (SameFor inner) (presentField? fields name) (presentField? others name) := by
  have field := same.field_rel reads listed
  simp only [presentField?]
  generalize field? fields name = value, field? others name = other at field ⊢
  cases field with
  | none => exact .none
  | @some value other same =>
      simp only [Option.filter_some, same.isNull_eq]
      cases value.isNull with
      | false => exact .some same
      | true => exact .none

theorem SameFor.plainField_eq (same : SameFor part (.object fields) (.object others))
    (reads : part.reads? fields = some names) (listed : (name, .plain) ∈ names)
    : field? others name = field? fields name := by
  have field := same.field_rel reads listed
  generalize field? fields name = value, field? others name = other at field ⊢
  cases field with
  | none => rfl
  | some same => rw [same.plain_eq]

/-- Values that are the same in the fields read are read as one part of a card. -/
theorem SameFor.wording : Wording SameFor (fun _ => True) Eq where
  scalar same noArray noObject := by
    cases same with
    | refl => rfl
    | object _ _ _ => cases noObject
    | array _ _ _ => cases noArray
  array := by
    intro part items other same
    cases same with
    | refl => exact ⟨items, rfl, fun _ _ => List.forall₂_same.mpr fun item _ => .refl _ item⟩
    | @array _ inner _ others lists length each =>
        refine ⟨others, rfl, fun inner again => ?_⟩
        obtain rfl := Option.some.inj (lists.symm.trans again)
        exact List.forall₂_iff_zip.mpr ⟨length, fun member => each _ _ member⟩
  object := by
    intro part fields other same
    have shape : ∃ others, other = .object others := by
      cases same with
      | refl => exact ⟨fields, rfl⟩
      | @object _ _ others _ _ _ _ => exact ⟨others, rfl⟩
    obtain ⟨others, rfl⟩ := shape
    refine ⟨others, rfl, fun names reads name inner listed => ?_⟩
    exact same.presentField_rel reads listed
  fixed _ := trivial
  empty := trivial
  text := by
    intro part fields others object same
    refine ⟨?_, trivial⟩
    have texts : ∃ names, part.reads? fields = some names
        ∧ ("content", .plain) ∈ names ∧ ("i18n", .plain) ∈ names := by
      rcases object with rfl | rfl
      · exact ⟨_, rfl, by simp, by simp⟩
      · exact ⟨_, rfl, by simp, by simp⟩
    obtain ⟨names, reads, content, variants⟩ := texts
    simp only [LocalizedText.ofFields, objectField?, same.plainField_eq reads content,
      same.plainField_eq reads variants]
  tag := by
    intro part fields others object same
    have tagged : ∃ names, part.reads? fields = some names ∧ ("tag", .plain) ∈ names := by
      rcases object with rfl | rfl
      · exact ⟨_, rfl, List.mem_cons_self⟩
      · exact ⟨_, rfl, List.mem_cons_self⟩
    obtain ⟨names, reads, tag⟩ := tagged
    rw [same.plainField_eq reads tag]

/-- Objects are the same when each field that is read is missing from both or the same in both. -/
theorem SameFor.of_rel (reads : part.reads? fields = some names)
    (each
      : ∀ name inner,
          (name, inner) ∈ names
          → Option.Rel (SameFor inner) (field? fields name) (field? others name))
    : SameFor part (.object fields) (.object others) := by
  refine .object reads ?present ?each
  case present =>
    intro name inner listed
    have field := each name inner listed
    generalize field? fields name = value, field? others name = other at field ⊢
    cases field <;> rfl
  case each =>
    intro name inner value other listed found given
    have field := each name inner listed
    rw [found, given] at field
    cases field with
    | some same => exact same

theorem field?_filter_of_ne {removed : String} (distinct : name ≠ removed)
    : field? (fields.filter (·.1 != removed)) name = field? fields name := by
  induction fields with
  | nil => rfl
  | cons first rest ih =>
      rcases first with ⟨key, old⟩
      simp only [field?] at ih
      by_cases same : key = removed
      · have other : (name == key) = false := by simpa [same] using distinct
        simp only [field?, List.filter_cons, same, bne_self_eq_false, List.lookup_cons]
        simpa [← same, other] using ih
      · simp [field?, same, List.lookup_cons, ih]

/-- Objects that differ in fields that are not read are the same. -/
theorem SameFor.of_fields (reads : part.reads? fields = some names)
    (agree : ∀ name ∈ names.map Prod.fst, field? others name = field? fields name)
    : SameFor part (.object fields) (.object others) := by
  refine .of_rel reads fun name inner listed => ?_
  rw [agree name (List.mem_map_of_mem listed)]
  cases field? fields name with
  | none => exact .none
  | some value => exact .some (.refl inner value)

/-- A field that is not read may be added, or given another value. -/
theorem SameFor.insertField (reads : part.reads? fields = some names)
    (unread : name ∉ names.map Prod.fst) (value : Json)
    : SameFor part (.object fields) (.object (Json.insertField name value fields)) := by
  refine .of_fields reads fun other listed => ?_
  rw [field?_insertField, if_neg]
  rintro rfl
  exact unread listed

/-- A field that is not read may be removed. -/
theorem SameFor.removeField (reads : part.reads? fields = some names)
    (unread : name ∉ names.map Prod.fst)
    : SameFor part (.object fields) (.object (fields.filter (·.1 != name))) := by
  refine .of_fields reads fun other listed => field?_filter_of_ne ?_
  rintro rfl
  exact unread listed

end Json

-----------------------------------------------------------------------------------------
-- Compilation
-----------------------------------------------------------------------------------------

/-- Only the fields of the grammar are read: documents that agree in them are compiled to the same
outcome with any options, as values and as source texts.
-/
theorem compile_sameFor {fields others : Fields}
    (same : SameFor .document (.object fields) (.object others)) (options : Options)
    (sourceId : Nat)
    : (Document.ofFields fields sourceId).compile options
        = (Document.ofFields others sourceId).compile options
      ∧ ∀ {source other : String},
          Json.Reader.readText source.toList = .ok (.object fields)
          → Json.Reader.readText other.toList = .ok (.object others)
          → compile source options sourceId = compile other options sourceId := by
  have akin := SameFor.wording.toKinship.document_akin same sourceId
  have compiled : (Document.ofFields fields sourceId).compile options
      = (Document.ofFields others sourceId).compile options := by
    refine (Document.compile_alike SameFor.wording akin ?_).eq
    refine .of_display rfl rfl rfl (fun _ _ => rfl) (fun _ => rfl) ?_
    intro field tag other allowed path sourceId tags
    rw [tags]
  refine ⟨compiled, ?_⟩
  intro source other read again
  simp only [compile, Document.read, read, again, compiled]

/-- The fields of a line of text in a note. -/
def signature : Fields :=
  [("content", .string "Ada"), ("i18n", .null), ("tag", .string "plain_text")]

/-- The fields of a note with these children. -/
def noteWith (children : List Fields) : Fields :=
  [("elements", .array (children.map .object)), ("tag", .string "note")]

/-- The fields of a card with a configuration and a note that is signed twice. -/
def configuredCard : Fields :=
  [("config", .object []),
    ("elements", .array [.object (noteWith [signature, signature])])]

/-- The fields of the same card without its configuration.  Of its signatures one has a field more
and one a field less; none of them is read.
-/
def versionedCard : Fields :=
  [("elements", .array
      [.object
        (noteWith
          [Json.insertField "lines" (.string "two") signature,
            signature.filter (·.1 != "i18n")])]),
    ("schema", .string "2.0")]

theorem versionedCard_sameFor
    : SameFor .document (.object configuredCard) (.object versionedCard)
      ∧ compile (Json.compact (.object configuredCard)) { level := .error } 0
        = compile (Json.compact (.object versionedCard)) { level := .error } 0 := by
  have reads : Part.child.reads? signature = some [("tag", .plain), ("content", .plain)] := rfl
  have longer : SameFor .child (.object signature)
      (.object (Json.insertField "lines" (.string "two") signature)) :=
    .insertField reads (by decide) (.string "two")
  have shorter : SameFor .child (.object signature)
      (.object (signature.filter (·.1 != "i18n"))) :=
    .removeField reads (by decide)
  have note : SameFor .element (.object (noteWith [signature, signature]))
      (.object
        (noteWith
          [Json.insertField "lines" (.string "two") signature,
            signature.filter (·.1 != "i18n")])) := by
    have reads : Part.element.reads? (noteWith [signature, signature])
        = some [("tag", .plain), ("elements", .children)] := rfl
    refine .of_rel reads fun name inner listed => ?_
    simp only [List.mem_cons, Prod.mk.injEq, List.not_mem_nil, or_false] at listed
    rcases listed with ⟨rfl, rfl⟩ | ⟨rfl, rfl⟩
    · exact .some (.refl .plain _)
    · refine .some (.array rfl rfl fun value other paired => ?_)
      simp only [List.map_cons, List.map_nil, List.zip_cons_cons, List.zip_nil_left,
        List.mem_cons, Prod.mk.injEq, List.not_mem_nil, or_false] at paired
      rcases paired with ⟨rfl, rfl⟩ | ⟨rfl, rfl⟩
      · exact longer
      · exact shorter
  have card : SameFor .document (.object configuredCard) (.object versionedCard) := by
    refine .of_rel rfl fun name inner listed => ?_
    simp only [List.mem_cons, Prod.mk.injEq, List.not_mem_nil, or_false] at listed
    rcases listed with ⟨rfl, rfl⟩ | ⟨rfl, rfl⟩
    · exact .none
    · exact .some (.array rfl rfl (by simpa using note))
  refine ⟨card, (compile_sameFor card { level := .error } 0).2 ?_ ?_⟩
  · rw [compact_toList]
    cbv
  · rw [compact_toList]
    cbv

end MessageCard
