import MessageCard.Proofs.AlikeCompilation
import MessageCard.Proofs.CompactText
import MessageCard.Proofs.OrderedFields

/-! Fields that are `null`.  A field that is `null` is read as a missing one, at every place of a
document: dropping such fields changes neither the tree nor what is reported, but for the wording
of an unknown tag, which is quoted as it stands.
-/

namespace MessageCard

open Json Document

namespace Json

mutual

/-- The value without the fields that are `null`, in every object; the items of arrays stay. -/
def withoutNulls : Json → Json
  | object fields => object (fieldsWithoutNulls fields)
  | array items => array (itemsWithoutNulls items)
  | null => null
  | bool value => bool value
  | number value => number value
  | string value => string value

/-- The items without the fields that are `null` in them. -/
def itemsWithoutNulls : List Json → List Json
  | [] => []
  | item :: rest => item.withoutNulls :: itemsWithoutNulls rest

/-- The fields that are not `null`, their values without those that are. -/
def fieldsWithoutNulls : List (String × Json) → List (String × Json)
  | [] => []
  | (name, value) :: rest =>
      if value.isNull then fieldsWithoutNulls rest
      else (name, value.withoutNulls) :: fieldsWithoutNulls rest

end

variable {fields : Fields} {name : String}

theorem itemsWithoutNulls_eq_map (items : List Json)
    : itemsWithoutNulls items = items.map withoutNulls := by
  induction items with
  | nil => rfl
  | cons item rest ih => rw [itemsWithoutNulls, ih, List.map_cons]

theorem isNull_withoutNulls (value : Json) : value.withoutNulls.isNull = value.isNull := by
  cases value <;> rfl

theorem string?_withoutNulls (value : Json) : value.withoutNulls.string? = value.string? := by
  cases value <;> rfl

/-- The fields that are left are those that are present.  By induction over the fields: their order
leaves no second field of a name that would be found instead of a `null`.
-/
theorem field?_withoutNulls (names : fields.Pairwise fun field later => field.1 < later.1)
    : field? (fieldsWithoutNulls fields) name
      = (presentField? fields name).map withoutNulls := by
  induction fields with
  | nil => rfl
  | cons first rest ih =>
      rcases first with ⟨key, value⟩
      obtain ⟨least, names⟩ := List.pairwise_cons.mp names
      have ih := ih names
      by_cases same : name = key
      · subst same
        have here : field? ((name, value) :: rest) name = some value := by
          simp only [field?, List.lookup_cons_self]
        simp only [presentField?, here, Option.filter_some, fieldsWithoutNulls]
        cases null : value.isNull with
        | false => simp [field?]
        | true =>
            have absent : field? rest name = none := by
              rw [field?, List.lookup_eq_none_iff]
              intro field member
              simpa using ne_of_lt (least field member)
            simpa [presentField?, absent] using ih
      · have other : (name == key) = false := by simpa using same
        have later : presentField? ((key, value) :: rest) name = presentField? rest name := by
          simp only [presentField?, field?, List.lookup_cons, other]
        rw [later, ← ih, fieldsWithoutNulls]
        split
        · rfl
        · simp only [field?, List.lookup_cons, other]

theorem presentField?_withoutNulls
    (names : fields.Pairwise fun field later => field.1 < later.1)
    : presentField? (fieldsWithoutNulls fields) name
      = (presentField? fields name).map withoutNulls := by
  rw [presentField?, field?_withoutNulls names]
  cases found : presentField? fields name with
  | none => rfl
  | some value =>
      have given := (presentField?_eq_some_iff.mp found).2
      have notNull : value.isNull = false := by cases value <;> simp_all [isNull]
      simp [isNull_withoutNulls, notNull]

/-- The entries of a table that are strings are not `null`. -/
theorem stringEntries_withoutNulls (table : Fields)
    : LocalizedText.stringEntries (fieldsWithoutNulls table)
      = LocalizedText.stringEntries table := by
  induction table with
  | nil => rfl
  | cons first rest ih =>
      rcases first with ⟨name, value⟩
      simp only [LocalizedText.stringEntries] at ih
      simp only [fieldsWithoutNulls, LocalizedText.stringEntries]
      cases value with
      | null => exact ih
      | _ =>
          rw [if_neg (by simp [isNull]), List.filterMap_cons, List.filterMap_cons, ih,
            string?_withoutNulls]

/-- A text object is read alike without its fields that are `null`. -/
theorem localizedText_withoutNulls
    (names : fields.Pairwise fun field later => field.1 < later.1)
    : LocalizedText.ofFields (fieldsWithoutNulls fields) = .ofFields fields := by
  have content
      : ((presentField? fields "content").map withoutNulls).bind string?
        = (presentField? fields "content").bind string? := by
    cases presentField? fields "content" with
    | none => rfl
    | some value => exact string?_withoutNulls value
  have variants
      : (((presentField? fields "i18n").map withoutNulls).bind object?).map
            LocalizedText.stringEntries
        = ((presentField? fields "i18n").bind object?).map LocalizedText.stringEntries := by
    cases presentField? fields "i18n" with
    | none => rfl
    | some value =>
        cases value with
        | object table => exact congrArg some (stringEntries_withoutNulls table)
        | _ => rfl
  simp only [LocalizedText.ofFields, objectField?, field?_bind_eq string? rfl,
    field?_bind_eq object? rfl, presentField?_withoutNulls names, content, variants]

/-- Values in order are read alike without the fields that are `null`. -/
theorem withoutNulls_wording
    : Wording (fun _ value other => value.Ordered ∧ other = value.withoutNulls)
        (fun _ => True) (fun _ _ => True) where
  scalar := by
    rintro part value other ⟨_, rfl⟩ noArray noObject
    cases value with
    | array items => cases noArray
    | object fields => cases noObject
    | _ => rfl
  array := by
    rintro part items other ⟨ordered, rfl⟩
    refine ⟨itemsWithoutNulls items, rfl, fun inner _ => ?_⟩
    rw [itemsWithoutNulls_eq_map, List.forall₂_map_right_iff]
    refine List.forall₂_same.mpr fun item member => ⟨?_, rfl⟩
    cases ordered with
    | array each => exact each item member
  object := by
    rintro part fields other ⟨ordered, rfl⟩
    refine ⟨fieldsWithoutNulls fields, rfl, fun _ _ name inner _ => ?_⟩
    rw [presentField?_withoutNulls ordered.names]
    cases found : presentField? fields name with
    | none => exact .none
    | some value => exact .some ⟨ordered.field (presentField?_eq_some_iff.mp found).1, rfl⟩
  fixed _ := trivial
  empty := trivial
  text := by
    rintro part fields others _ ⟨ordered, same⟩
    cases same
    exact ⟨localizedText_withoutNulls ordered.names, trivial⟩
  tag _ _ := trivial

end Json

-----------------------------------------------------------------------------------------
-- Compilation
-----------------------------------------------------------------------------------------

/-- The report without the tag that it quotes, if it is about an unknown one. -/
def Diagnostic.untagged (report : Diagnostic) : Diagnostic :=
  match report.cause with
  | .unknownTag field _ allowed => { report with cause := .unknownTag field "" allowed }
  | _ => report

/-- Without the fields that are `null`, a source text is compiled to the same tree with the same
warnings, or to a report that is the same but for the tag that it quotes.
-/
theorem compile_withoutNulls {source other : String} {fields : Fields}
    (read : Json.Reader.read source = .ok (.object fields))
    (again : Json.Reader.read other = .ok (Json.object fields).withoutNulls) (options : Options)
    (sourceId : Nat)
    : OutcomesAlike Eq (fun fatal other => fatal.untagged = other.untagged)
        (compile source options sourceId) (compile other options sourceId) := by
  rw [Json.Reader.read] at read again
  have ordered : (Json.object fields).Ordered := Json.Reader.readText_ordered read
  have akin := withoutNulls_wording.toKinship.document_akin ⟨ordered, rfl⟩ sourceId
  rw [withoutNulls] at again
  simp only [compile, Document.read, read, again]
  refine Document.compile_alike withoutNulls_wording akin ?_
  exact .of_display rfl rfl rfl (fun _ _ => rfl) (fun _ => rfl) fun _ _ _ _ _ _ _ => rfl

/-- The fields of a card with an image and an element whose tag is no name, where much is `null`. -/
def sparseCard : Fields :=
  [("elements", .array
      [.object
        [("alt", .object [("content", .string "a"), ("i18n", .null)]), ("img_key", .string "k"),
          ("tag", .string "img")],
        .object [("tag", .object [("name", .null)])]]),
    ("header", .null)]

/-- The fields of the same card, without what is `null`. -/
def denseCard : Fields :=
  [("elements", .array
      [.object
        [("alt", .object [("content", .string "a")]), ("img_key", .string "k"),
          ("tag", .string "img")],
        .object [("tag", .object [])]])]

/-- Both cards are refused alike, for the unknown tag that each quotes as it stands. -/
theorem sparseCard_withoutNulls
    : (Json.object sparseCard).withoutNulls = .object denseCard
      ∧ OutcomesAlike Eq (fun fatal other => fatal.untagged = other.untagged)
          (compile (Json.compact (.object sparseCard)) {} 0)
          (compile (Json.compact (.object denseCard)) {} 0) := by
  have dense : (Json.object sparseCard).withoutNulls = .object denseCard := rfl
  have read : Json.Reader.read (Json.compact (.object sparseCard)) = .ok (.object sparseCard) := by
    rw [Json.Reader.read, compact_toList]
    cbv
  have again
      : Json.Reader.read (Json.compact (.object denseCard))
        = .ok (Json.object sparseCard).withoutNulls := by
    rw [Json.Reader.read, compact_toList, dense]
    cbv
  exact ⟨dense, compile_withoutNulls read again {} 0⟩

end MessageCard
