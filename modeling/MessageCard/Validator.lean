import MessageCard.Diagnostic
import MessageCard.Options.Basic

/-!
Field checks under a level of validation.  A failed check is ignored, recorded or fatal, as
the level says; notices are recorded at every level.
-/

namespace MessageCard

/-- What a failed check leads to: the reports to record, or the fatal report. -/
def Level.verdict (level : Level) (message : String) (path : Path) (sourceId : Nat)
    : Except Diagnostic (List Diagnostic) :=
  match level with
  | .off => .ok []
  | .warning => .ok [.warning (.schemaViolation message) path sourceId]
  | .error => .error (.fatal (.schemaViolation message) path sourceId)

/-- A validator: a level, a source, and the reports recorded so far. -/
structure Validator where
  level : Level
  sourceId : Nat
  diagnostics : List Diagnostic
deriving DecidableEq, Repr

namespace Validator

/-- A validator that has recorded nothing. -/
def new (level : Level) (sourceId : Nat) : Validator :=
  { level, sourceId, diagnostics := [] }

/-- The message of a check, if it failed. -/
def check (condition : Bool) (message : String) : Option String :=
  if condition then none else some message

/-- Records a report at any level. -/
def notice (validator : Validator) (cause : Cause) (path : Path) : Validator :=
  { validator with
    diagnostics := validator.diagnostics ++ [.warning cause path validator.sourceId] }

/-- The fatal report of a cause. -/
def fatal (validator : Validator) (cause : Cause) (path : Path) : Diagnostic :=
  .fatal cause path validator.sourceId

/-- Asserts a check: whether it holds, or the fatal report; and the validator afterwards. -/
def assert (validator : Validator) (condition : Bool) (message : String) (path : Path)
    : Except Diagnostic Bool × Validator :=
  match check condition message with
  | none => (.ok true, validator)
  | some message =>
      match validator.level.verdict message path validator.sourceId with
      | .error fatal => (.error fatal, validator)
      | .ok reports =>
          (.ok false, { validator with diagnostics := validator.diagnostics ++ reports })

/-- Asserts checks one after the other, up to the first that fails. -/
def assertAll (validator : Validator) (checks : List (Bool × String)) (path : Path)
    : Except Diagnostic Bool × Validator :=
  match checks with
  | [] => (.ok true, validator)
  | (condition, message) :: rest =>
      match validator.assert condition message path with
      | (.ok true, validator) => validator.assertAll rest path
      | stopped => stopped

end Validator

end MessageCard
