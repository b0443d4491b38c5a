import MessageCard.Proofs.FixtureVerdicts
import MessageCard.Suite.Run

/-! What comes of a fixture file.  It passes when it is read as a fixture and what its card compiles
to satisfies the expectations that are heeded; when it does not, the reason says what came between.
-/

namespace MessageCard

namespace FixtureFile

/-- The file holds a fixture, and what the card of the fixture compiles to satisfies the
expectations that are heeded.
-/
def Passes (file : FixtureFile) : Prop :=
  ∃ text fixture,
    file.content = .ok text
    ∧ Fixture.read text = .ok fixture
    ∧ fixture.expectation.heeded.Satisfied
        (compile fixture.source fixture.expectation.options 0)

/-- The reason says why the file does not pass: it is not read, it holds no fixture, or the outcome
differs from what is expected.  Of settings that are refused more may be said.
-/
inductive FailsFor (file : FixtureFile) : String → Prop
  | unread {error : ReadError} (unread : file.content = .error error)
    : FailsFor file ("cannot read file: " ++ error.message)
  | refused {text : String} {fault : Fixture.Fault} (read : file.content = .ok text)
    (refused : Fixture.read text = .error fault) (more : String)
    (onlySettings : fault ≠ .badSettings → more = "")
    : FailsFor file ("frontmatter error: " ++ fault.message ++ more)
  | mismatch {text : String} {fixture : Fixture} {mismatch : Mismatch}
    (read : file.content = .ok text) (accepted : Fixture.read text = .ok fixture)
    (differs
      : fixture.expectation.check (compile fixture.source fixture.expectation.options 0)
        = some mismatch)
    : FailsFor file mismatch.message

/-- What comes of the file when it is run. -/
def result (file : FixtureFile) : FixtureResult :=
  .ofFile file.name file.content

variable {file : FixtureFile}

/-- A file that is run fails with a reason, or it passes.  By cases on how far the run comes. -/
theorem result_cases (file : FixtureFile)
    : (∃ reason, file.result.failure = some reason ∧ file.FailsFor reason ∧ ¬ file.Passes)
      ∨ file.result.failure = none ∧ file.Passes := by
  rw [result, FixtureResult.ofFile.eq_def]
  cases read : file.content with
  | error error =>
      refine .inl ⟨_, rfl, .unread read, fun ⟨_, _, passed, _⟩ => ?_⟩
      cases read.symm.trans passed
  | ok text =>
      cases accepted : Fixture.read text with
      | error fault =>
          refine .inl ⟨_, ?_, .refused read accepted "" fun _ => rfl, ?_⟩
          · simp only [accepted, String.append_empty]
          · intro ⟨_, _, passed, held, _⟩
            cases read.symm.trans passed
            cases accepted.symm.trans held
      | ok fixture =>
          simp only [accepted]
          have verdict := (Expectation.check_eq_none_iff fixture.expectation
            (compile fixture.source fixture.expectation.options 0)).1
          cases checked : fixture.run with
          | none => exact .inr ⟨rfl, text, fixture, read, accepted, verdict.mp checked⟩
          | some mismatch =>
              refine .inl ⟨_, rfl, .mismatch read accepted checked, ?_⟩
              intro ⟨_, _, passed, held, satisfied⟩
              cases read.symm.trans passed
              cases accepted.symm.trans held
              cases checked.symm.trans (verdict.mpr satisfied)

/-- A file passes exactly when it has passed after it was run. -/
theorem hasPassed_iff : file.result.hasPassed = true ↔ file.Passes := by
  rw [FixtureResult.hasPassed, Option.isNone_iff_eq_none]
  rcases file.result_cases with ⟨reason, failed, _, fails⟩ | ⟨passed, passes⟩
  · rw [failed]
    exact iff_of_false nofun fails
  · exact iff_of_true passed passes

/-- The reason that is given when the file has failed. -/
def reason (file : FixtureFile) : String :=
  file.result.failure.getD ""

theorem failsFor_reason (failed : file.result.hasPassed = false) : file.FailsFor file.reason := by
  rw [FixtureResult.hasPassed] at failed
  rcases file.result_cases with ⟨reason, given, fails, _⟩ | ⟨passed, _⟩
  · rw [FixtureFile.reason, given]
    exact fails
  · rw [passed] at failed
    cases failed

end FixtureFile

end MessageCard
