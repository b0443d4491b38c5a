import Mathlib.Data.List.Forall2
import MessageCard.Fixture.Check
import MessageCard.Proofs.TextParts

/-! The verdict on a fixture.  A fixture passes exactly when its outcome satisfies each
expectation that is heeded.  That a document is malformed is expected before all else, and an
error before a tree or warnings; an expectation behind one of these is passed over.
-/

namespace MessageCard

/-- A warning is as expected: its message has the part, and its path is the one that is given. -/
structure ExpectedWarning.Describes (expected : ExpectedWarning) (actual : Diagnostic) : Prop where
  message : expected.contains.toList <:+: actual.message.toList
  path : ∀ path, expected.path = some path → actual.path.map Path.text = some path

theorem Diagnostic.isMalformed_iff {failure : Diagnostic}
    : failure.isMalformed = true ↔ ∃ error, failure.cause = .malformedDocument error := by
  rw [Diagnostic.isMalformed]
  split
  · rename_i error cause
    exact iff_of_true rfl ⟨error, cause⟩
  · rename_i other
    exact iff_of_false nofun fun ⟨error, cause⟩ => other error cause

namespace Expectation

/-- An outcome satisfies each expectation that is stated. Without one of a failure it is a
compilation.
-/
structure Satisfied (expectation : Expectation) (outcome : Except Diagnostic Compilation)
    : Prop where
  malformed
    : expectation.isMalformed = true
      → ∃ failure error, outcome = .error failure ∧ failure.cause = .malformedDocument error
  error
    : ∀ part,
        expectation.error = some part
        → ∃ failure, outcome = .error failure ∧ part.toList <:+: failure.message.toList
  tree
    : ∀ text,
        expectation.tree = some text
        → ∃ compilation core,
            outcome = .ok compilation
            ∧ Text.IsPadded core compilation.tree.outline.toList
            ∧ Text.IsPadded core text.toList
  warnings
    : ∀ expected,
        expectation.warnings = some expected
        → ∃ compilation,
            outcome = .ok compilation
            ∧ List.Forall₂ ExpectedWarning.Describes expected compilation.warnings
  success
    : expectation.isMalformed = false
      → expectation.error = none
      → ∃ compilation, outcome = .ok compilation

/-- The expectations that are heeded: one of a failure stands before those behind it. -/
def heeded (expectation : Expectation) : Expectation :=
  if expectation.isMalformed then
    { expectation with error := none, tree := none, warnings := none }
  else if expectation.error.isSome then { expectation with tree := none, warnings := none }
  else expectation

/-- Every expectation is heeded when none stands behind one of a failure. -/
theorem heeded_eq_self {expectation : Expectation}
    (alone : expectation.isMalformed = true → expectation.error = none)
    (first : expectation.isMalformed = true ∨ expectation.error.isSome
      → expectation.tree = none ∧ expectation.warnings = none)
    : expectation.heeded = expectation := by
  obtain ⟨description, level, locale, maxDepth, tree, error, isMalformed, warnings⟩ := expectation
  rw [heeded]
  split
  · rename_i malformed
    obtain rfl : error = none := alone malformed
    obtain ⟨rfl, rfl⟩ : tree = none ∧ warnings = none := first (.inl malformed)
    rfl
  · split
    · rename_i stated
      obtain ⟨rfl, rfl⟩ : tree = none ∧ warnings = none := first (.inr stated)
      rfl
    · rfl

-----------------------------------------------------------------------------------------
-- Trees and warnings
-----------------------------------------------------------------------------------------

theorem checkWarning_eq_none_iff (index : Nat) {expected : ExpectedWarning} {actual : Diagnostic}
    : checkWarning index expected actual = none ↔ expected.Describes actual := by
  rw [checkWarning]
  split
  · rename_i missing
    refine iff_of_false nofun fun describes => ?_
    rw [Text.hasPart_iff.mpr describes.message] at missing
    cases missing
  · rename_i part
    have found : expected.contains.toList <:+: actual.message.toList :=
      Text.hasPart_iff.mp (by simpa using part)
    split
    · rename_i free
      refine iff_of_true rfl ⟨found, ?_⟩
      intro path given
      cases free.symm.trans given
    · rename_i path given
      split
      · rename_i same
        refine iff_of_true rfl ⟨found, ?_⟩
        intro other again
        cases given.symm.trans again
        exact same
      · rename_i apart
        exact iff_of_false nofun fun describes => apart (describes.path path given)

/-- Warnings are compared one by one, by induction over those that are expected. -/
theorem checkEach_eq_none_iff {index : Nat} {expected : List ExpectedWarning}
    {actual : List Diagnostic} (counted : expected.length = actual.length)
    : checkEach index expected actual = none
      ↔ List.Forall₂ ExpectedWarning.Describes expected actual := by
  induction expected generalizing index actual with
  | nil =>
      cases actual with
      | nil => exact iff_of_true rfl .nil
      | cons warning rest => cases counted
  | cons first more ih =>
      cases actual with
      | nil => cases counted
      | cons warning rest =>
          rw [checkEach, List.forall₂_cons, ← checkWarning_eq_none_iff index]
          split
          · rename_i mismatch found
            rw [found]
            exact iff_of_false nofun fun both => nomatch both.1
          · rename_i found
            rw [found, ih (Nat.succ.inj counted)]
            exact (and_iff_right rfl).symm

theorem checkWarnings_eq_none_iff {expected : List ExpectedWarning} {actual : List Diagnostic}
    : checkWarnings expected actual = none
      ↔ List.Forall₂ ExpectedWarning.Describes expected actual := by
  rw [checkWarnings]
  split
  · rename_i counted
    exact checkEach_eq_none_iff counted
  · rename_i other
    exact iff_of_false nofun fun describes => other describes.length_eq

theorem checkTree_eq_none_iff {expected actual : String}
    : checkTree expected actual = none
      ↔ ∃ core, Text.IsPadded core actual.toList ∧ Text.IsPadded core expected.toList := by
  rw [checkTree, ← Text.trim_eq_iff]
  split
  · rename_i same
    exact iff_of_true rfl same
  · rename_i apart
    exact iff_of_false nofun apart

theorem checkCompilation_eq_none_iff {expectation : Expectation} {compilation : Compilation}
    : expectation.checkCompilation compilation = none
      ↔ (∀ text, expectation.tree = some text →
          ∃ core, Text.IsPadded core compilation.tree.outline.toList
            ∧ Text.IsPadded core text.toList)
        ∧ ∀ expected, expectation.warnings = some expected →
          List.Forall₂ ExpectedWarning.Describes expected compilation.warnings := by
  have tree : expectation.tree.bind (checkTree · compilation.tree.outline) = none ↔ _ :=
    Option.bind_eq_none_iff
  have warnings : expectation.warnings.bind (checkWarnings · compilation.warnings) = none ↔ _ :=
    Option.bind_eq_none_iff
  simp only [checkTree_eq_none_iff] at tree
  simp only [checkWarnings_eq_none_iff] at warnings
  rw [← tree, ← warnings, checkCompilation]
  split
  · rename_i mismatch found
    rw [found]
    exact iff_of_false nofun fun both => nomatch both.1
  · rename_i found
    rw [found]
    exact (and_iff_right rfl).symm

-----------------------------------------------------------------------------------------
-- Verdicts
-----------------------------------------------------------------------------------------

variable {expectation : Expectation} {outcome : Except Diagnostic Compilation}

theorem check_of_malformed (malformed : expectation.isMalformed = true)
    : expectation.check outcome = none ↔ expectation.heeded.Satisfied outcome := by
  rw [heeded, if_pos malformed, check.eq_def, if_pos malformed]
  constructor
  · intro passed
    split at passed
    · rename_i failure
      split at passed
      · rename_i same
        obtain ⟨error, cause⟩ := Diagnostic.isMalformed_iff.mp same
        refine ⟨fun _ => ⟨failure, error, rfl, cause⟩, nofun, nofun, nofun, fun wellFormed => ?_⟩
        cases malformed.symm.trans wellFormed
      · cases passed
    · cases passed
  · intro satisfied
    obtain ⟨failure, error, rfl, cause⟩ := satisfied.malformed malformed
    exact if_pos (Diagnostic.isMalformed_iff.mpr ⟨error, cause⟩)

theorem check_of_error (wellFormed : expectation.isMalformed = false) {part : String}
    (stated : expectation.error = some part)
    : expectation.check outcome = none ↔ expectation.heeded.Satisfied outcome := by
  have behind : ¬ expectation.isMalformed = true := Bool.eq_false_iff.mp wellFormed
  rw [heeded, if_neg behind, if_pos (stated ▸ rfl), check.eq_def, if_neg behind, stated]
  constructor
  · intro passed
    cases outcome with
    | ok compilation => cases passed
    | error failure =>
        refine ⟨fun malformed => (behind malformed).elim, fun other same => ?_, nofun, nofun,
          fun _ free => ?_⟩
        · cases same
          refine ⟨failure, rfl, Text.hasPart_iff.mp ?_⟩
          by_contra missing
          cases (if_neg missing).symm.trans passed
        · cases free
  · intro satisfied
    obtain ⟨failure, rfl, found⟩ := satisfied.error part rfl
    exact if_pos (Text.hasPart_iff.mpr found)

theorem check_of_success (wellFormed : expectation.isMalformed = false)
    (free : expectation.error = none)
    : expectation.check outcome = none ↔ expectation.heeded.Satisfied outcome := by
  have behind : ¬ expectation.isMalformed = true := Bool.eq_false_iff.mp wellFormed
  have same : expectation.heeded = expectation := by
    rw [heeded, if_neg behind, free]
    rfl
  rw [same, check.eq_def, if_neg behind, free]
  cases outcome with
  | error failure =>
      refine iff_of_false nofun fun satisfied => ?_
      obtain ⟨compilation, same⟩ := satisfied.success wellFormed free
      cases same
  | ok compilation =>
      refine Iff.trans checkCompilation_eq_none_iff ?_
      constructor
      · rintro ⟨tree, warnings⟩
        refine ⟨fun malformed => (behind malformed).elim, fun part stated => ?_, ?_, ?_,
          fun _ _ => ⟨compilation, rfl⟩⟩
        · cases free.symm.trans stated
        · intro text stated
          obtain ⟨core, padded⟩ := tree text stated
          exact ⟨compilation, core, rfl, padded⟩
        · intro expected stated
          exact ⟨compilation, rfl, warnings expected stated⟩
      · intro satisfied
        refine ⟨fun text stated => ?_, fun expected stated => ?_⟩
        · obtain ⟨_, core, same, padded⟩ := satisfied.tree text stated
          cases same
          exact ⟨core, padded⟩
        · obtain ⟨_, same, describes⟩ := satisfied.warnings expected stated
          cases same
          exact describes

/-- A fixture passes exactly when its outcome satisfies the expectations that are heeded.  Where
none stands behind one of a failure, these are all that it states.
-/
theorem check_eq_none_iff (expectation : Expectation) (outcome : Except Diagnostic Compilation)
    : (expectation.check outcome = none ↔ expectation.heeded.Satisfied outcome)
      ∧ ((expectation.isMalformed = true → expectation.error = none)
        → (expectation.isMalformed = true ∨ expectation.error.isSome
          → expectation.tree = none ∧ expectation.warnings = none)
        → (expectation.check outcome = none ↔ expectation.Satisfied outcome)) := by
  have verdict : expectation.check outcome = none ↔ expectation.heeded.Satisfied outcome := by
    cases wellFormed : expectation.isMalformed with
    | true => exact check_of_malformed wellFormed
    | false =>
        cases stated : expectation.error with
        | some part => exact check_of_error wellFormed stated
        | none => exact check_of_success wellFormed stated
  refine ⟨verdict, fun alone first => ?_⟩
  rw [verdict, heeded_eq_self alone first]

/-- A picture without a text in its place is warned about, and the fixture says where. -/
theorem missingAlt_described
    : let source := "\x7b\"elements\": [\x7b\"tag\": \"img\", \"img_key\": \"k\"\x7d]\x7d"
      let expected := { contains := "img.alt is required", path := some "elements[0]" }
      ∃ compilation,
        compile source {} 0 = .ok compilation
        ∧ List.Forall₂ ExpectedWarning.Describes [expected] compilation.warnings := by
  intro source expected
  let expectation : Expectation := { warnings := some [expected] }
  have passed : (expectation.check (compile source {} 0)).isNone = true := by decide +kernel
  have satisfied : expectation.Satisfied (compile source {} 0) :=
    ((check_eq_none_iff expectation _).2 nofun nofun).mp (Option.isNone_iff_eq_none.mp passed)
  exact satisfied.warnings [expected] rfl

/-- What the message is to contain is passed over behind a malformed document. -/
theorem shadowedError_passes
    : let expectation : Expectation := { isMalformed := true, error := some "no such message" }
      let outcome := compile "\x7b\n" {} 0
      expectation.check outcome = none ∧ ¬ expectation.Satisfied outcome := by
  intro expectation outcome
  let alone : Expectation := { error := some "no such message" }
  have passed : (expectation.check outcome).isNone = true := by decide +kernel
  have failed : (alone.check outcome).isSome = true := by decide +kernel
  refine ⟨Option.isNone_iff_eq_none.mp passed, fun satisfied => ?_⟩
  obtain ⟨failure, refused, found⟩ := satisfied.error "no such message" rfl
  have missing : alone.check (.error failure) = none := if_pos (Text.hasPart_iff.mpr found)
  rw [refused, missing] at failed
  cases failed

end Expectation

end MessageCard
