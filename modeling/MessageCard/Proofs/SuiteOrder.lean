import Mathlib.Data.List.Sort
import Mathlib.Data.String.Basic
import MessageCard.Suite.Basic

/-! Suites as maps.  The categories of a suite stand in strict order, so that each of them has one
list of files.  A change keeps the order and touches the files of its category alone; two suites in
order that have the same entries are equal.
-/

namespace MessageCard.Suite

/-- The categories stand in strict order. -/
def Sorted (suite : Suite) : Prop :=
  suite.Pairwise fun entry later => entry.1 < later.1

/-- The files of a category, none if it is missing. -/
def filesOf (suite : Suite) (category : String) : List FixtureFile :=
  (suite.lookup category).getD []

variable {suite other : Suite} {category : String} {files : List FixtureFile}

theorem Sorted.tail {entry : String × List FixtureFile} (sorted : Sorted (entry :: suite))
    : suite.Sorted :=
  (List.pairwise_cons.mp sorted).2

/-- A category has one list of files. -/
theorem Sorted.files_unique (sorted : suite.Sorted) {more : List FixtureFile}
    (listed : (category, files) ∈ suite) (again : (category, more) ∈ suite)
    : files = more := by
  induction suite with
  | nil => cases listed
  | cons entry rest ih =>
      have before := (List.pairwise_cons.mp sorted).1
      rcases List.mem_cons.mp listed with first | later
      · rcases List.mem_cons.mp again with same | later
        · exact congrArg Prod.snd (first.trans same.symm)
        · subst first
          exact (lt_irrefl category (before _ later)).elim
      · rcases List.mem_cons.mp again with same | other
        · subst same
          exact (lt_irrefl category (before _ later)).elim
        · exact ih sorted.tail later other

/-- Two suites in order are equal when they have the same entries. -/
theorem Sorted.ext (sorted : suite.Sorted) (others : other.Sorted)
    (same : ∀ entry, entry ∈ suite ↔ entry ∈ other)
    : suite = other := by
  have irreflexive
      : Std.Irrefl fun entry later : String × List FixtureFile => entry.1 < later.1 :=
    ⟨fun entry => lt_irrefl entry.1⟩
  have antisymmetric
      : Std.Antisymm fun entry later : String × List FixtureFile => entry.1 < later.1 :=
    ⟨fun entry later before behind => (lt_asymm before behind).elim⟩
  exact List.Pairwise.eq_of_mem_iff sorted others same

-----------------------------------------------------------------------------------------
-- Changes
-----------------------------------------------------------------------------------------

variable {f : List FixtureFile → List FixtureFile}

theorem filesOf_cons {listed : String}
    : filesOf ((listed, files) :: suite) category
      = if category = listed then files else suite.filesOf category := by
  rw [filesOf, List.lookup_cons]
  split
  · rename_i same
    rw [if_pos (beq_iff_eq.mp same)]
    rfl
  · rename_i apart
    rw [if_neg (beq_eq_false_iff_ne.mp apart)]
    rfl

/-- A category in front of all others of a suite has no files there. -/
theorem filesOf_of_before (before : ∀ entry ∈ suite, category < entry.1)
    : suite.filesOf category = [] := by
  induction suite with
  | nil => rfl
  | cons entry rest ih =>
      have first : category ≠ entry.1 := ne_of_lt (before entry List.mem_cons_self)
      rw [filesOf_cons, if_neg first]
      exact ih fun later listed => before later (List.mem_cons_of_mem _ listed)

/-- The entries of a suite in order after a change: that of the category with its files changed, and
those of the other categories.  Induction over the suite, with cases on where the category belongs.
-/
theorem Sorted.mem_change_iff (sorted : suite.Sorted) {entry : String × List FixtureFile}
    : entry ∈ suite.change category f
      ↔ entry = (category, f (suite.filesOf category))
        ∨ entry.1 ≠ category ∧ entry ∈ suite := by
  induction suite with
  | nil =>
      constructor
      · intro listed
        exact .inl (List.mem_singleton.mp listed)
      · rintro (new | ⟨_, listed⟩)
        · exact List.mem_singleton.mpr new
        · cases listed
  | cons first rest ih =>
      obtain ⟨listed, files⟩ := first
      have before := (List.pairwise_cons.mp sorted).1
      rw [Suite.change]
      split
      · rename_i front
        have all : ∀ entry ∈ (listed, files) :: rest, category < entry.1 := by
          intro entry member
          rcases List.mem_cons.mp member with rfl | later
          · exact front
          · exact lt_trans front (before entry later)
        rw [filesOf_of_before all, List.mem_cons]
        refine or_congr_right ⟨fun member => ⟨?_, member⟩, And.right⟩
        exact ne_of_gt (all entry member)
      · split
        · rename_i same
          subst same
          rw [filesOf_cons, if_pos rfl, List.mem_cons, List.mem_cons]
          refine or_congr_right ⟨fun later => ⟨?_, .inr later⟩, ?_⟩
          · exact ne_of_gt (before entry later)
          · rintro ⟨apart, rfl | later⟩
            · exact (apart rfl).elim
            · exact later
        · rename_i _ apart
          rw [List.mem_cons, List.mem_cons, ih sorted.tail, filesOf_cons, if_neg apart]
          constructor
          · rintro (rfl | new | ⟨other, later⟩)
            · exact .inr ⟨Ne.symm apart, .inl rfl⟩
            · exact .inl new
            · exact .inr ⟨other, .inr later⟩
          · rintro (new | ⟨other, rfl | later⟩)
            · exact .inr (.inl new)
            · exact .inl rfl
            · exact .inr (.inr ⟨other, later⟩)

/-- A change keeps the order. -/
theorem Sorted.change (sorted : suite.Sorted) : (suite.change category f).Sorted := by
  induction suite with
  | nil => exact List.pairwise_singleton _ _
  | cons first rest ih =>
      obtain ⟨listed, files⟩ := first
      have before := (List.pairwise_cons.mp sorted).1
      rw [Suite.change]
      split
      · rename_i front
        refine .cons ?_ sorted
        intro entry member
        rcases List.mem_cons.mp member with rfl | later
        · exact front
        · exact lt_trans front (before entry later)
      · split
        · rename_i same
          exact .cons (fun entry later => same ▸ before entry later) sorted.tail
        · rename_i notFront apart
          refine .cons ?_ (ih sorted.tail)
          intro entry member
          rcases sorted.tail.mem_change_iff.mp member with rfl | ⟨_, later⟩
          · exact lt_of_le_of_ne (not_lt.mp notFront) (Ne.symm apart)
          · exact before entry later

/-- A category is listed with its files, or it is missing and has none. -/
theorem filesOf_cases (suite : Suite) (category : String)
    : (category, suite.filesOf category) ∈ suite
      ∨ suite.filesOf category = [] ∧ ∀ files, (category, files) ∉ suite := by
  rw [filesOf]
  cases found : suite.lookup category with
  | some files =>
      obtain ⟨before, behind, split, _⟩ := List.lookup_eq_some_iff.mp found
      left
      rw [split]
      exact List.mem_append_right _ List.mem_cons_self
  | none =>
      right
      refine ⟨rfl, fun files listed => ?_⟩
      have apart := List.lookup_eq_none_iff.mp found _ listed
      exact bne_iff_ne.mp apart rfl

end MessageCard.Suite
