import Mathlib.Data.List.Sort
import MessageCard.Proofs.FileNames
import MessageCard.Proofs.SuiteOrder

/-! How files are grouped into suites.  Files are put into their categories one after the other, and
each category holds those of its name.  Sorting by paths then forgets the order in which files came,
as no two of them have one path.
-/

namespace MessageCard.Suite

-----------------------------------------------------------------------------------------
-- The order of files
-----------------------------------------------------------------------------------------

variable {files others : List FixtureFile}

/-- Paths are in order name by name, as lists are.  Induction over both, with cases on how their
first names compare.
-/
theorem inOrder_iff {names others : List FileName}
    : inOrder names others = true ↔ names ≤ others := by
  induction names generalizing others with
  | nil => exact ⟨fun _ => not_lt.mp (List.not_lt_nil _), fun _ => rfl⟩
  | cons first more ih =>
      cases others with
      | nil => exact ⟨nofun, fun behind => (not_lt.mpr behind (List.nil_lt_cons _ _)).elim⟩
      | cons second rest =>
          rw [inOrder, Bool.or_eq_true, Bool.and_eq_true, beq_iff_eq, decide_eq_true_iff, ih,
            ← not_lt, ← not_lt, List.cons_lt_cons_iff]
          rcases lt_trichotomy first second with before | same | behind
          · simp only [before, lt_asymm before, ne_of_gt before, true_or, false_or, false_and,
              not_false_iff]
          · simp only [same, lt_irrefl, true_and, false_or]
          · simp only [behind, lt_asymm behind, ne_of_gt behind, true_or, false_or, false_and,
              not_true]

theorem precedes_iff {first second : FixtureFile}
    : precedes first second = true ↔ first.path ≤ second.path :=
  inOrder_iff

/-- Sorted files are in the order of their paths, without two of one path. -/
theorem sort_pairwise (distinct : (files.map FixtureFile.path).Nodup)
    : (files.mergeSort precedes).Pairwise fun first second => first.path < second.path := by
  have transitive (first second third : FixtureFile) (before : precedes first second = true)
      (after : precedes second third = true)
      : precedes first third = true :=
    precedes_iff.mpr (le_trans (precedes_iff.mp before) (precedes_iff.mp after))
  have total (first second : FixtureFile)
      : (precedes first second || precedes second first) = true := by
    rw [Bool.or_eq_true, precedes_iff, precedes_iff]
    exact le_total first.path second.path
  have ordered := List.pairwise_mergeSort transitive total files
  have apart
      : (files.mergeSort precedes).Pairwise fun first second => first.path ≠ second.path := by
    have same := (List.mergeSort_perm files precedes).map FixtureFile.path
    exact List.pairwise_map.mp (same.nodup_iff.mpr distinct)
  exact (ordered.and apart).imp fun both => lt_of_le_of_ne (precedes_iff.mp both.1) both.2

/-- Sorting forgets the order in which files of different paths came. -/
theorem sort_eq_of_perm (distinct : (files.map FixtureFile.path).Nodup) (same : files.Perm others)
    : files.mergeSort precedes = others.mergeSort precedes := by
  have distinctOthers := (same.map FixtureFile.path).nodup_iff.mp distinct
  have perm : (files.mergeSort precedes).Perm (others.mergeSort precedes) :=
    (List.mergeSort_perm _ _).trans (same.trans (List.mergeSort_perm _ _).symm)
  apply perm.eq_of_pairwise _ (sort_pairwise distinct) (sort_pairwise distinctOthers)
  intro first second _ _ before behind
  exact (lt_asymm before behind).elim

-----------------------------------------------------------------------------------------
-- Categories
-----------------------------------------------------------------------------------------

variable {seen : List FixtureFile} {suite : Suite} {file : FixtureFile} {category : String}

/-- The files of a category among others. -/
def within (category : String) (files : List FixtureFile) : List FixtureFile :=
  files.filter fun file => decide (file.category = category)

theorem mem_within_iff
    : file ∈ within category files ↔ file ∈ files ∧ file.category = category := by
  rw [within, List.mem_filter, decide_eq_true_iff]

theorem within_append
    : within category (files ++ others) = within category files ++ within category others :=
  List.filter_append _ _

theorem within_singleton
    : within category [file] = if file.category = category then [file] else [] := by
  rw [within, List.filter_singleton]
  by_cases same : file.category = category
  · rw [if_pos same, decide_eq_true same, cond_true]
  · rw [if_neg same, decide_eq_false same, cond_false]

theorem within_paths_nodup (distinct : (files.map FixtureFile.path).Nodup)
    : ((within category files).map FixtureFile.path).Nodup :=
  distinct.sublist (List.filter_sublist.map _)

/-- A suite holds the files that were seen: in order, the categories of them, each with its files.
-/
structure Holds (seen : List FixtureFile) (suite : Suite) : Prop where
  sorted : suite.Sorted
  mem_iff
    : ∀ category files, (category, files) ∈ suite ↔ files = within category seen ∧ files ≠ []

theorem Holds.filesOf (holds : Holds seen suite) (category : String)
    : suite.filesOf category = within category seen := by
  rcases suite.filesOf_cases category with listed | ⟨none, absent⟩
  · exact ((holds.mem_iff _ _).mp listed).1
  · rw [none]
    by_contra filled
    exact absent _ ((holds.mem_iff _ _).mpr ⟨rfl, Ne.symm filled⟩)

/-- A file that is put into a suite joins its category. -/
theorem Holds.put (holds : Holds seen suite) (file : FixtureFile)
    : Holds (seen ++ [file]) (suite.put file) := by
  refine ⟨holds.sorted.change, fun category files => ?_⟩
  rw [Suite.put, holds.sorted.mem_change_iff, holds.filesOf, holds.mem_iff, within_append]
  -- The entry of the file's category is the changed one; any other was there with the same files.
  by_cases same : file.category = category
  · subst same
    rw [within_singleton, if_pos rfl]
    constructor
    · rintro (new | ⟨apart, _⟩)
      · cases new
        exact ⟨rfl, List.append_ne_nil_of_right_ne_nil _ (List.cons_ne_nil _ _)⟩
      · exact (apart rfl).elim
    · rintro ⟨rfl, _⟩
      exact .inl rfl
  · rw [within_singleton, if_neg same, List.append_nil]
    constructor
    · rintro (new | ⟨_, held⟩)
      · cases new
        exact (same rfl).elim
      · exact held
    · intro held
      exact .inr ⟨Ne.symm same, held⟩

/-- Files that are put into a suite one after the other are held by it, by induction over them. -/
theorem Holds.foldl (holds : Holds seen suite)
    : Holds (seen ++ files) (files.foldl Suite.put suite) := by
  induction files generalizing seen suite with
  | nil =>
      rw [List.append_nil]
      exact holds
  | cons file rest ih =>
      have more := ih (holds.put file)
      rw [List.append_assoc, List.singleton_append] at more
      exact more

theorem holds_foldl_put (files : List FixtureFile) : Holds files (files.foldl Suite.put []) := by
  have start : Holds [] [] := by
    refine ⟨.nil, fun category files => ⟨nofun, ?_⟩⟩
    intro ⟨empty, filled⟩
    exact (filled empty).elim
  exact start.foldl

/-- A suite lists the categories of its files, each with its files sorted. -/
theorem mem_ofFiles_iff {group : List FixtureFile}
    : (category, group) ∈ ofFiles files
      ↔ group = (within category files).mergeSort precedes ∧ within category files ≠ [] := by
  rw [ofFiles, List.mem_map]
  constructor
  · rintro ⟨⟨_, group⟩, listed, same⟩
    cases same
    obtain ⟨rfl, filled⟩ := ((holds_foldl_put files).mem_iff _ _).mp listed
    exact ⟨rfl, filled⟩
  · rintro ⟨rfl, filled⟩
    have held := ((holds_foldl_put files).mem_iff category _).mpr ⟨rfl, filled⟩
    exact ⟨_, held, rfl⟩

theorem ofFiles_sorted (files : List FixtureFile) : (ofFiles files).Sorted :=
  List.pairwise_map.mpr (holds_foldl_put files).sorted

/-- A group of a suite of files with different paths holds the files of its category, in the order
of their paths.
-/
theorem group_ofFiles (distinct : (files.map FixtureFile.path).Nodup) {group : List FixtureFile}
    (listed : (category, group) ∈ ofFiles files)
    : group ≠ []
      ∧ group.Pairwise (fun first second => first.path < second.path)
      ∧ ∀ file, file ∈ group ↔ file ∈ files ∧ file.category = category := by
  obtain ⟨rfl, filled⟩ := mem_ofFiles_iff.mp listed
  refine ⟨?_, sort_pairwise (within_paths_nodup distinct), fun file => ?_⟩
  · intro empty
    have perm := List.mergeSort_perm (within category files) precedes
    rw [empty] at perm
    exact filled perm.symm.eq_nil
  · rw [List.mem_mergeSort, mem_within_iff]

/-- The category of a file is listed with it. -/
theorem exists_group (listed : file ∈ files)
    : ∃ group, (file.category, group) ∈ ofFiles files ∧ file ∈ group := by
  have inside : file ∈ within file.category files := mem_within_iff.mpr ⟨listed, rfl⟩
  refine ⟨_, mem_ofFiles_iff.mpr ⟨rfl, List.ne_nil_of_mem inside⟩, ?_⟩
  exact List.mem_mergeSort.mpr inside

/-- The order in which files of different paths come does not matter to their suite. -/
theorem ofFiles_eq_of_perm (distinct : (files.map FixtureFile.path).Nodup)
    (same : files.Perm others)
    : ofFiles files = ofFiles others := by
  apply (ofFiles_sorted files).ext (ofFiles_sorted others)
  intro ⟨category, group⟩
  have inside : (within category files).Perm (within category others) := same.filter _
  have sorted := sort_eq_of_perm (within_paths_nodup distinct) inside
  have filled : within category files = [] ↔ within category others = [] := by
    rw [← List.length_eq_zero_iff, inside.length_eq, List.length_eq_zero_iff]
  rw [mem_ofFiles_iff, mem_ofFiles_iff, sorted, ne_eq, ne_eq, filled]

end MessageCard.Suite
