import Mathlib.Data.List.DropRight
import MessageCard.Proofs.SuiteOrder
import MessageCard.Proofs.TextParts

/-! Which categories requests select.  A request covers the categories whose first segments are its
own.  Requests are read one after the other; what is selected in the end are the entries of the
suite that one of them covers, in whatever order and how often they are made.
-/

namespace MessageCard.Suite

-----------------------------------------------------------------------------------------
-- What a request covers
-----------------------------------------------------------------------------------------

/-- The name in a request is its text without the slashes at both ends. -/
structure IsRequest (text : String) (name : List Char) : Prop where
  padded
    : ∃ front back,
        (∀ c ∈ front, c = '/')
        ∧ (∀ c ∈ back, c = '/')
        ∧ text.toList = front ++ name ++ back
  start : name.head? ≠ some '/'
  stop : name.getLast? ≠ some '/'

/-- A request covers the category that it names, and those below it. -/
def Covers (text category : String) : Prop :=
  ∃ name,
    IsRequest text name
    ∧ (category.toList = name ∨ ∃ below, category.toList = name ++ '/' :: below)

variable {text category : String} {name : List Char}

/-- What is left of a request without its slashes is its name. -/
theorem isRequest_request (text : String) : IsRequest text (request text) := by
  let behind := text.toList.dropWhile (· == '/')
  have right : request text ++ behind.rtakeWhile (· == '/') = behind :=
    List.rdropWhile_append_rtakeWhile
  constructor
  case padded =>
    refine ⟨text.toList.takeWhile (· == '/'), behind.rtakeWhile (· == '/'), ?_, ?_, ?_⟩
    · intro c listed
      simpa using List.mem_takeWhile_imp listed
    · intro c listed
      simpa using List.mem_rtakeWhile_imp listed
    · rw [List.append_assoc, right]
      exact List.takeWhile_append_dropWhile.symm
  case start =>
    intro first
    have front : (text.toList.dropWhile (· == '/')).head? = some '/' := by
      change behind.head? = some '/'
      rw [← right, List.head?_append, first]
      rfl
    have dropped := List.head?_dropWhile_not (· == '/') text.toList
    rw [front] at dropped
    cases dropped
  case stop =>
    intro last
    have filled : request text ≠ [] := by
      intro empty
      rw [empty] at last
      cases last
    have kept := List.rdropWhile_last_not (· == '/') behind filled
    rw [List.getLast?_eq_getLast_of_ne_nil filled] at last
    exact kept (beq_iff_eq.mpr (Option.some.inj last))

/-- A request has no other name. -/
theorem IsRequest.eq_request (is : IsRequest text name) : name = request text := by
  obtain ⟨front, back, slashes, more, padded⟩ := is.padded
  have left : text.toList.dropWhile (· == '/') = (name ++ back).dropWhile (· == '/') := by
    rw [padded, List.append_assoc]
    exact List.dropWhile_append_of_pos fun c listed => beq_iff_eq.mpr (slashes c listed)
  have blank : Text.dropRight (· == '/') back = [] :=
    List.rdropWhile_eq_nil_iff.mpr fun c listed => beq_iff_eq.mpr (more c listed)
  change name = Text.dropRight (· == '/') (text.toList.dropWhile (· == '/'))
  rw [left]
  cases name with
  | nil =>
      have none : back.dropWhile (· == '/') = [] :=
        List.dropWhile_eq_nil_iff.mpr fun c listed => beq_iff_eq.mpr (more c listed)
      rw [List.nil_append, none]
      rfl
  | cons c rest =>
      have first : ¬ (c == '/') = true := by
        intro slash
        apply is.start
        rw [beq_iff_eq.mp slash]
        rfl
      have last : ∀ last ∈ (c :: rest).getLast?, (last == '/') = false := by
        intro last listed
        apply beq_false_of_ne
        intro slash
        subst slash
        exact is.stop listed
      rw [List.cons_append, List.dropWhile_cons, if_neg first, ← List.cons_append,
        Text.dropRight_append last, blank, List.append_nil]

/-- The test on a request and a category decides whether the one covers the other. -/
theorem covers_iff : covers text category = true ↔ Covers text category := by
  rw [covers, Bool.or_eq_true, beq_iff_eq, List.isPrefixOf_iff_prefix]
  constructor
  · rintro (same | ⟨below, split⟩)
    · exact ⟨request text, isRequest_request text, .inl same⟩
    · refine ⟨request text, isRequest_request text, .inr ⟨below, ?_⟩⟩
      rw [← split, List.append_assoc]
      rfl
  · rintro ⟨name, is, same | ⟨below, split⟩⟩
    · exact .inl (is.eq_request ▸ same)
    · refine .inr ⟨below, ?_⟩
      rw [← is.eq_request, split, List.append_assoc]
      rfl

instance : Decidable (Covers text category) :=
  decidable_of_iff _ covers_iff

theorem intercalate_append (first : List Char) (front : List (List Char)) (next : List Char)
    (rest : List (List Char))
    : ['/'].intercalate (first :: front ++ next :: rest)
      = ['/'].intercalate (first :: front) ++ '/' :: ['/'].intercalate (next :: rest) := by
  induction front generalizing first with
  | nil =>
      rw [List.singleton_append, List.intercalate_cons_cons, List.intercalate_singleton,
        List.append_assoc]
      rfl
  | cons second front ih =>
      rw [List.cons_append, List.cons_append, List.intercalate_cons_cons, ← List.cons_append, ih,
        List.intercalate_cons_cons]
      simp only [List.append_assoc]

/-- A path is the named one or lies below it exactly when the segments of the name are its first.
-/
theorem segments_prefix_iff {path : List Char}
    : name.splitOn '/' <+: path.splitOn '/'
      ↔ path = name ∨ ∃ below, path = name ++ '/' :: below := by
  constructor
  · intro ⟨rest, split⟩
    have joined : ['/'].intercalate (name.splitOn '/' ++ rest) = path := by
      rw [split, List.intercalate_splitOn]
    cases rest with
    | nil =>
        left
        rw [← joined, List.append_nil, List.intercalate_splitOn]
    | cons next rest =>
        right
        obtain ⟨first, front, segments⟩ := List.exists_cons_of_ne_nil (List.splitOn_ne_nil '/' name)
        refine ⟨['/'].intercalate (next :: rest), ?_⟩
        rw [← joined, segments, intercalate_append, ← segments, List.intercalate_splitOn]
  · rintro (rfl | ⟨below, rfl⟩)
    · exact List.prefix_rfl
    · rw [List.splitOn_append_cons_self]
      exact List.prefix_append _ _

/-- A request covers a category exactly when its segments are the first ones of the category. -/
theorem covers_iff_segments
    : Covers text category
      ↔ ∃ name, IsRequest text name ∧ name.splitOn '/' <+: category.toList.splitOn '/' := by
  constructor
  · rintro ⟨name, is, below⟩
    exact ⟨name, is, segments_prefix_iff.mpr below⟩
  · rintro ⟨name, is, first⟩
    exact ⟨name, is, segments_prefix_iff.mp first⟩

-----------------------------------------------------------------------------------------
-- Selecting entries
-----------------------------------------------------------------------------------------

variable {suite selected : Suite} {entry other : String × List FixtureFile}

/-- Puts an entry in its place, over one of the same category. -/
def insert (selected : Suite) (entry : String × List FixtureFile) : Suite :=
  selected.change entry.1 fun _ => entry.2

theorem Sorted.insert (part : selected.Sorted) : (selected.insert entry).Sorted :=
  part.change

/-- An entry of a suite that is inserted into others of it replaces at most itself. -/
theorem Sorted.mem_insert_iff (sorted : suite.Sorted) (part : selected.Sorted)
    (within : ∀ entry ∈ selected, entry ∈ suite) (listed : entry ∈ suite)
    : other ∈ selected.insert entry ↔ other = entry ∨ other ∈ selected := by
  rw [Suite.insert, part.mem_change_iff]
  constructor
  · rintro (new | ⟨_, kept⟩)
    · exact .inl new
    · exact .inr kept
  · rintro (new | kept)
    · exact .inl new
    · by_cases same : other.1 = entry.1
      · obtain ⟨category, files⟩ := entry
        obtain ⟨_, more⟩ := other
        cases same
        rw [sorted.files_unique (within _ kept) listed]
        exact .inl rfl
      · exact .inr ⟨same, kept⟩

/-- What is in a suite after some of its entries were inserted, by induction over these: each of
them, and what was there.  The order is kept.
-/
theorem Sorted.insertAll (sorted : suite.Sorted) (part : selected.Sorted)
    (within : ∀ entry ∈ selected, entry ∈ suite) {covered : Suite}
    (listed : ∀ entry ∈ covered, entry ∈ suite)
    : (covered.foldl Suite.insert selected).Sorted
      ∧ ∀ entry,
          entry ∈ covered.foldl Suite.insert selected ↔ entry ∈ selected ∨ entry ∈ covered := by
  induction covered generalizing selected with
  | nil =>
      refine ⟨part, fun entry => ⟨.inl, ?_⟩⟩
      rintro (kept | absent)
      · exact kept
      · cases absent
  | cons first rest ih =>
      have first_listed := listed first List.mem_cons_self
      have mem_insert {other} : other ∈ selected.insert first ↔ other = first ∨ other ∈ selected :=
        sorted.mem_insert_iff part within first_listed
      have still : ∀ entry ∈ selected.insert first, entry ∈ suite := by
        intro entry member
        rcases mem_insert.mp member with rfl | kept
        · exact first_listed
        · exact within entry kept
      obtain ⟨ordered, members⟩ :=
        ih part.insert still fun entry later => listed entry (List.mem_cons_of_mem _ later)
      refine ⟨ordered, fun entry => ?_⟩
      rw [List.foldl_cons, members, mem_insert, List.mem_cons, or_assoc, or_left_comm]

/-- What requests have selected from a suite: in order, the entries that one of them covers, and
the requests that cover no entry.
-/
structure Selection.Describes (suite : Suite) (requests : List String) (selection : Selection)
    : Prop where
  sorted : selection.categories.Sorted
  selected
    : ∀ entry,
        entry ∈ selection.categories ↔ entry ∈ suite ∧ ∃ text ∈ requests, Covers text entry.1
  unmatched
    : selection.unmatched
      = requests.filter fun text => decide (∀ entry ∈ suite, ¬ Covers text entry.1)

variable {requests seen : List String} {selection : Selection}

/-- One more request adds what it covers. -/
theorem Selection.Describes.add (sorted : suite.Sorted)
    (describes : selection.Describes suite seen) (text : String)
    : (selection.add suite text).Describes suite (seen ++ [text]) := by
  let covered := suite.filter fun entry => covers text entry.1
  have mem_covered {entry} : entry ∈ covered ↔ entry ∈ suite ∧ Covers text entry.1 := by
    rw [List.mem_filter, covers_iff]
  have within : ∀ entry ∈ selection.categories, entry ∈ suite := by
    intro entry member
    exact ((describes.selected entry).mp member).1
  obtain ⟨ordered, members⟩ :=
    sorted.insertAll describes.sorted within fun entry member => (mem_covered.mp member).1
  constructor
  case sorted => exact ordered
  case selected =>
    intro entry
    refine (members entry).trans ?_
    rw [describes.selected, mem_covered, ← and_or_left]
    simp only [List.mem_append, List.mem_singleton, or_and_right, exists_or, exists_eq_left]
  case unmatched =>
    have none_iff : covered.isEmpty = true ↔ ∀ entry ∈ suite, ¬ Covers text entry.1 := by
      rw [List.isEmpty_iff, List.filter_eq_nil_iff]
      simp only [covers_iff]
    rw [List.filter_append, ← describes.unmatched]
    by_cases uncovered : ∀ entry ∈ suite, ¬ Covers text entry.1
    · rw [List.filter_singleton, decide_eq_true uncovered]
      exact if_pos (none_iff.mpr uncovered)
    · rw [List.filter_singleton, decide_eq_false uncovered, cond_false, List.append_nil]
      exact if_neg fun empty => uncovered (none_iff.mp empty)

/-- What requests select is what they cover, by induction over them. -/
theorem Selection.Describes.foldl (sorted : suite.Sorted)
    (describes : selection.Describes suite seen)
    : (requests.foldl (Selection.add suite) selection).Describes suite (seen ++ requests) := by
  induction requests generalizing seen selection with
  | nil =>
      rw [List.append_nil]
      exact describes
  | cons text rest ih =>
      have more := ih (describes.add sorted text)
      rw [List.append_assoc, List.singleton_append] at more
      exact more

theorem selection_describes (sorted : suite.Sorted) (some : requests ≠ [])
    : (suite.selection requests).Describes suite requests := by
  have none : Selection.Describes suite [] { categories := [], unmatched := [] } := by
    refine ⟨.nil, fun entry => ⟨nofun, ?_⟩, rfl⟩
    intro ⟨_, text, absent, _⟩
    cases absent
  rw [selection, if_neg (by rwa [List.isEmpty_iff])]
  exact none.foldl sorted

/-- Requests select a category that one of them covers; without requests, any is selected. -/
def Selects (requests : List String) (category : String) : Prop :=
  requests = [] ∨ ∃ text ∈ requests, Covers text category

theorem mem_select_iff (sorted : suite.Sorted)
    : entry ∈ suite.select requests ↔ entry ∈ suite ∧ Selects requests entry.1 := by
  by_cases none : requests = []
  · subst none
    exact ⟨fun listed => ⟨listed, .inl rfl⟩, And.left⟩
  · rw [select, (selection_describes sorted none).selected, Selects]
    simp only [none, false_or]

theorem select_sorted (sorted : suite.Sorted) : (suite.select requests).Sorted := by
  by_cases none : requests = []
  · subst none
    exact sorted
  · exact (selection_describes sorted none).sorted

/-- Selection filters by segments.  Without requests it leaves the suite as it is.  Otherwise it
keeps, in order and with all their files, the categories that a request covers: those of its name,
and those that its name leads to by segments.  The order of requests and their repetitions do not
matter, each request adds what it selects alone, and the requests that are warned about are those
that cover nothing, in their order.
-/
theorem select_by_segments (sorted : suite.Sorted)
    : suite.select [] = suite
      ∧ (∀ requests,
          requests ≠ []
          → (suite.select requests).Sorted
            ∧ ∀ category files,
                (category, files) ∈ suite.select requests
                ↔ (category, files) ∈ suite ∧ ∃ text ∈ requests, Covers text category)
      ∧ (∀ text category,
          Covers text category
          ↔ ∃ name, IsRequest text name ∧ name.splitOn '/' <+: category.toList.splitOn '/')
      ∧ (∀ requests others : List String,
          (∀ text, text ∈ requests ↔ text ∈ others)
          → suite.select requests = suite.select others)
      ∧ (∀ requests,
          requests ≠ []
          → ∀ entry,
              entry ∈ suite.select requests ↔ ∃ text ∈ requests, entry ∈ suite.select [text])
      ∧ ∀ requests,
          (suite.unmatched requests).map suite.warning
          = (requests.filter fun text => decide (∀ entry ∈ suite, ¬ Covers text entry.1)).map
              suite.warning := by
  have mem_requested {requests : List String} (some : requests ≠ []) {entry}
      : entry ∈ suite.select requests
        ↔ entry ∈ suite ∧ ∃ text ∈ requests, Covers text entry.1 :=
    (selection_describes sorted some).selected entry
  refine ⟨rfl, ?requested, ?segments, ?alike, ?union, ?unmatched⟩
  case requested =>
    intro requests some
    exact ⟨select_sorted sorted, fun category files => mem_requested some⟩
  case segments =>
    intro text category
    exact covers_iff_segments
  case alike =>
    intro requests others same
    apply (select_sorted sorted).ext (select_sorted sorted)
    intro entry
    have none : requests = [] ↔ others = [] := by
      rw [List.eq_nil_iff_forall_not_mem, List.eq_nil_iff_forall_not_mem]
      exact forall_congr' fun text => not_congr (same text)
    rw [mem_select_iff sorted, mem_select_iff sorted, Selects, Selects, none]
    simp only [same]
  case union =>
    intro requests some entry
    rw [mem_requested some]
    constructor
    · intro ⟨listed, text, requested, covered⟩
      refine ⟨text, requested, (mem_requested (List.cons_ne_nil _ _)).mpr ?_⟩
      exact ⟨listed, text, List.mem_singleton_self text, covered⟩
    · intro ⟨text, requested, alone⟩
      obtain ⟨listed, _, only, covered⟩ := (mem_requested (List.cons_ne_nil _ _)).mp alone
      cases List.mem_singleton.mp only
      exact ⟨listed, text, requested, covered⟩
  case unmatched =>
    intro requests
    by_cases none : requests = []
    · subst none
      rfl
    · rw [Suite.unmatched, (selection_describes sorted none).unmatched]

/-- A request for elements selects what is nested in them, and not their namesakes. -/
theorem nestedElements_selected
    : let file : FixtureFile :=
        { folders := ["elements", "nested"], name := "hr.test.json", content := .ok "" }
      let suite : Suite :=
        [("", []), ("elements", []), ("elements/nested", [file]), ("elements2", [])]
      let requests := ["missing", "/elements/"]
      suite.Sorted
      ∧ ("elements/nested", [file]) ∈ suite.select requests
      ∧ (∀ files, ("elements2", files) ∉ suite.select requests)
      ∧ (suite.unmatched requests).map suite.warning
        = ["warning: category 'missing' not found "
            ++ "(available: (root), elements, elements/nested, elements2)"] := by
  intro file suite requests
  have sorted : suite.Sorted := by
    rw [Sorted]
    decide +kernel
  obtain ⟨_, requested, _, _, _, unmatched⟩ := select_by_segments sorted
  have selected := (requested requests (List.cons_ne_nil _ _)).2
  refine ⟨sorted, ?below, ?beside, ?warned⟩
  case below =>
    apply (selected _ _).mpr
    refine ⟨?_, "/elements/", ?_, ?_⟩
    · exact .tail _ (.tail _ (.head _))
    · exact .tail _ (.head _)
    · decide +kernel
  case beside =>
    intro files listed
    obtain ⟨_, covered⟩ := (selected _ _).mp listed
    revert covered
    decide +kernel
  case warned =>
    rw [unmatched]
    decide +kernel

end MessageCard.Suite
