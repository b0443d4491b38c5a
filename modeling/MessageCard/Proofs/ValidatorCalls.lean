import MessageCard.Validator

/-! Calls to a validator.  What a call is answered, and what it leaves on record, is decided by the
call, the level and the source alone.  A sequence of calls is answered call by call, and records
what each of them does, in their order, whatever the answers before were.
-/

namespace MessageCard.Validator

/-- A call to a validator. -/
inductive Call
  | check (condition : Bool) (message : String)
  | assert (condition : Bool) (message : String) (path : Path)
  | assertAll (checks : List (Bool × String)) (path : Path)
  | notice (cause : Cause) (path : Path)
  | fatal (cause : Cause) (path : Path)
deriving DecidableEq, Repr

/-- What comes back from a call. -/
inductive Answer
  | checked (failure : Option String)
  | asserted (verdict : Except Diagnostic Bool)
  | noted
  | built (diagnostic : Diagnostic)

/-- Makes a call: the answer, and the validator afterwards. -/
def call (validator : Validator) : Call → Answer × Validator
  | .check condition message => (.checked (check condition message), validator)
  | .assert condition message path =>
      let (verdict, next) := validator.assert condition message path
      (.asserted verdict, next)
  | .assertAll checks path =>
      let (verdict, next) := validator.assertAll checks path
      (.asserted verdict, next)
  | .notice cause path => (.noted, validator.notice cause path)
  | .fatal cause path => (.built (validator.fatal cause path), validator)

/-- Makes calls one after the other, also behind one that is answered with a fatal report. -/
def callAll (validator : Validator) : List Call → List Answer × Validator
  | [] => ([], validator)
  | first :: rest =>
      let (answer, next) := validator.call first
      let (answers, last) := next.callAll rest
      (answer :: answers, last)

-----------------------------------------------------------------------------------------
-- What each call comes to
-----------------------------------------------------------------------------------------

/-- The first of the checks that fails: its message, at the path they are asserted for. -/
def firstFailure (checks : List (Bool × String)) (path : Path) : Option (String × Path) :=
  (checks.find? fun (condition, _) => !condition).map fun (_, message) => (message, path)

/-- What is recorded about asserted checks of which the first failing one is given.  Only at the
level of warnings it is anything.
-/
def recorded (level : Level) (sourceId : Nat) : Option (String × Path) → List Diagnostic
  | none => []
  | some (message, path) =>
      if level = .warning then [.warning (.schemaViolation message) path sourceId] else []

/-- The verdict on asserted checks of which the first failing one is given.  Only at the level of
errors it is a fatal report.
-/
def verdict (level : Level) (sourceId : Nat) : Option (String × Path) → Except Diagnostic Bool
  | none => .ok true
  | some (message, path) =>
      if level = .error then .error (.fatal (.schemaViolation message) path sourceId)
      else .ok false

namespace Call

/-- The first check that fails, in a call that asserts checks. -/
def failure? : Call → Option (String × Path)
  | assert condition message path => firstFailure [(condition, message)] path
  | assertAll checks path => firstFailure checks path
  | _ => none

/-- The reports that a call leaves on record; a notice is recorded at every level. -/
def reports (level : Level) (sourceId : Nat) : Call → List Diagnostic
  | notice cause path => [.warning cause path sourceId]
  | call => recorded level sourceId call.failure?

/-- The answer to a call. -/
def answer (level : Level) (sourceId : Nat) : Call → Answer
  | check condition message => .checked (if condition then none else some message)
  | notice _ _ => .noted
  | fatal cause path => .built (.fatal cause path sourceId)
  | call => .asserted (verdict level sourceId call.failure?)

end Call

variable (validator : Validator)

/-- The validator with reports added to its record. -/
def recording (reports : List Diagnostic) : Validator :=
  { validator with diagnostics := validator.diagnostics ++ reports }

theorem recording_nil : validator.recording [] = validator := by
  rw [recording, List.append_nil]

theorem recording_append (first second : List Diagnostic)
    : (validator.recording first).recording second = validator.recording (first ++ second) := by
  rw [recording, recording, recording, List.append_assoc]

/-- A check that fails comes to what the level says. -/
theorem assert_false (message : String) (path : Path)
    : validator.assert false message path
      = (verdict validator.level validator.sourceId (some (message, path)),
          validator.recording
            (recorded validator.level validator.sourceId (some (message, path)))) := by
  obtain ⟨level, sourceId, diagnostics⟩ := validator
  cases level with
  | off => rfl
  | warning => rfl
  | error => exact congrArg (Prod.mk _) (recording_nil ⟨.error, sourceId, diagnostics⟩).symm

/-- No check that fails leads on to those behind it. -/
theorem assert_false_stops (message : String) (path : Path) (next : Validator)
    : validator.assert false message path ≠ (.ok true, next) := by
  rw [assert_false, verdict]
  split
  · intro same
    cases same
  · intro same
    cases same

/-- Checks come to what the first failing one of them does, by induction over them. -/
theorem assertAll_eq (checks : List (Bool × String)) (path : Path)
    : validator.assertAll checks path
      = (verdict validator.level validator.sourceId (firstFailure checks path),
          validator.recording
            (recorded validator.level validator.sourceId (firstFailure checks path))) := by
  induction checks with
  | nil => exact congrArg (Prod.mk _) validator.recording_nil.symm
  | cons first rest ih =>
      obtain ⟨condition, message⟩ := first
      cases condition with
      | true => exact ih
      | false =>
          rw [assertAll]
          split
          · rename_i next same
            exact (validator.assert_false_stops message path next same).elim
          · exact validator.assert_false message path

/-- One check is asserted as a list of it alone would be. -/
theorem assert_eq_assertAll (condition : Bool) (message : String) (path : Path)
    : validator.assert condition message path
      = validator.assertAll [(condition, message)] path := by
  cases condition with
  | true => rfl
  | false => rw [assert_false, assertAll_eq]; rfl

/-- A call is answered, and its reports are recorded, as its first failing check and the level say.
-/
theorem call_eq (call : Call)
    : validator.call call
      = (call.answer validator.level validator.sourceId,
          validator.recording (call.reports validator.level validator.sourceId)) := by
  cases call with
  | check condition message => exact congrArg (Prod.mk _) validator.recording_nil.symm
  | assert condition message path =>
      rw [Validator.call, assert_eq_assertAll, assertAll_eq]
      rfl
  | assertAll checks path =>
      rw [Validator.call, assertAll_eq]
      rfl
  | notice cause path => rfl
  | fatal cause path => exact congrArg (Prod.mk _) validator.recording_nil.symm

/-- Calls are answered one by one, and their reports are recorded one behind the other.  By
induction over the calls: a call changes neither the level nor the source.
-/
theorem callAll_eq (calls : List Call)
    : validator.callAll calls
      = (calls.map (Call.answer validator.level validator.sourceId),
          validator.recording
            (calls.flatMap (Call.reports validator.level validator.sourceId))) := by
  induction calls generalizing validator with
  | nil => exact congrArg (Prod.mk _) validator.recording_nil.symm
  | cons first rest ih =>
      have step := validator.call_eq first
      simp only [callAll, step, ih, recording_append]
      rfl

/-- The failing check that counts is behind none but checks that hold. -/
theorem firstFailure_eq_some_iff {checks : List (Bool × String)} {path : Path} {message : String}
    : firstFailure checks path = some (message, path)
      ↔ ∃ held rest,
          checks = held ++ (false, message) :: rest ∧ ∀ check ∈ held, check.1 = true := by
  constructor
  · intro found
    obtain ⟨⟨condition, other⟩, first, same⟩ := Option.map_eq_some_iff.mp found
    obtain ⟨failed, held, rest, split, before⟩ := List.find?_eq_some_iff_append.mp first
    cases same
    cases condition with
    | true => cases failed
    | false =>
        refine ⟨held, rest, split, ?_⟩
        intro check member
        simpa using before check member
  · rintro ⟨held, rest, rfl, before⟩
    have first
        : (held ++ (false, message) :: rest).find? (fun (condition, _) => !condition)
          = some (false, message) := by
      apply List.find?_eq_some_iff_append.mpr
      refine ⟨rfl, held, rest, rfl, ?_⟩
      intro check member
      simp [before check member]
    rw [firstFailure, first]
    rfl

/-- From the start, calls are answered one by one, and what is on record in the end is what each of
them leaves there.  Behind them the validator goes on in the same way, also where an answer was
fatal.
-/
theorem callAll_new (level : Level) (sourceId : Nat) (calls : List Call)
    : (new level sourceId).callAll calls
        = (calls.map (Call.answer level sourceId),
            { level, sourceId, diagnostics := calls.flatMap (Call.reports level sourceId) })
      ∧ (∀ more,
          ((new level sourceId).callAll calls).2.callAll more
          = (more.map (Call.answer level sourceId),
              { level, sourceId
                diagnostics :=
                  calls.flatMap (Call.reports level sourceId)
                    ++ more.flatMap (Call.reports level sourceId) }))
      ∧ ∀ checks path message,
          firstFailure checks path = some (message, path)
          ↔ ∃ held rest,
              checks = held ++ (false, message) :: rest ∧ ∀ check ∈ held, check.1 = true := by
  have run := (new level sourceId).callAll_eq calls
  refine ⟨run, ?_, fun checks path message => firstFailure_eq_some_iff⟩
  intro more
  rw [run]
  exact callAll_eq _ more

end MessageCard.Validator
