import MessageCard.Compilation.Card
import MessageCard.Fixture.Basic
import MessageCard.Node.Outline

/-!
Comparing the outcome of a compilation with what is expected of it.  A mismatch is a cause with
a wording; of several mismatches the first is reported.
-/

namespace MessageCard

/-- How an outcome differs from what is expected. -/
inductive Mismatch
  | wellFormed (failure : Option Diagnostic)
  | otherError (expected : String) (failure : Diagnostic)
  | noError (expected : String)
  | unexpectedError (failure : Diagnostic)
  | otherTree (expected actual : String)
  | warningCount (expected : Nat) (actual : List Diagnostic)
  | otherMessage (index : Nat) (expected : String) (actual : Diagnostic)
  | otherPath (index : Nat) (expected : String) (actual : Diagnostic)

namespace Mismatch

/-- A text without the white space at its end. -/
def shorn (text : String) : String :=
  String.ofList (Text.trimRight text.toList)

/-- Reports as a list of items. -/
def itemize (diagnostics : List Diagnostic) : String :=
  if diagnostics.isEmpty then "    (none)"
  else "\n".intercalate (diagnostics.map fun diagnostic => "  - " ++ diagnostic.message)

/-- The wording of a mismatch. -/
def message : Mismatch → String
  | wellFormed (some failure) => "expected a malformed document, got: " ++ failure.message
  | wellFormed none => "expected a malformed document, but compilation succeeded"
  | otherError expected failure =>
      "expected error containing \"" ++ expected ++ "\", got: " ++ failure.message
  | noError expected =>
      "expected error containing \"" ++ expected ++ "\", but compilation succeeded"
  | unexpectedError failure => "unexpected error: " ++ failure.message
  | otherTree expected actual =>
      "tree mismatch\n  expected:\n" ++ shorn expected ++ "\n  actual:\n" ++ shorn actual
  | warningCount expected actual =>
      "expected " ++ toString expected ++ " warning(s), got " ++ toString actual.length ++
        "\n  actual warnings:\n" ++ itemize actual
  | otherMessage index expected actual =>
      "warning[" ++ toString index ++ "]: expected message containing \"" ++ expected ++
        "\", got: " ++ actual.message
  | otherPath index expected actual =>
      "warning[" ++ toString index ++ "]: expected at " ++ expected ++ ", got " ++
        (actual.path.map Path.text).getD "(no path)"

end Mismatch

/-- Whether a report says that the document is malformed. -/
def Diagnostic.isMalformed (diagnostic : Diagnostic) : Bool :=
  match diagnostic.cause with
  | .malformedDocument _ => true
  | _ => false

namespace Expectation

/-- Compares a warning with what is expected of it: the message first, then the path. -/
def checkWarning (index : Nat) (expected : ExpectedWarning) (actual : Diagnostic)
    : Option Mismatch :=
  if !Text.hasPart expected.contains actual.message then
    some (.otherMessage index expected.contains actual)
  else
    match expected.path with
    | none => none
    | some path =>
        if actual.path.map Path.text = some path then none
        else some (.otherPath index path actual)

/-- Compares warnings, counted from an index, with what is expected of them one by one. -/
def checkEach (index : Nat) : List ExpectedWarning → List Diagnostic → Option Mismatch
  | expected :: more, actual :: rest =>
      match checkWarning index expected actual with
      | some mismatch => some mismatch
      | none => checkEach (index + 1) more rest
  | _, _ => none

/-- Compares warnings with what is expected of them: the number first. -/
def checkWarnings (expected : List ExpectedWarning) (actual : List Diagnostic)
    : Option Mismatch :=
  if expected.length = actual.length then checkEach 0 expected actual
  else some (.warningCount expected.length actual)

/-- Compares a tree with what is expected of it, up to white space around it. -/
def checkTree (expected actual : String) : Option Mismatch :=
  if Text.trim actual.toList = Text.trim expected.toList then none
  else some (.otherTree expected actual)

/-- Compares a compilation that succeeded with the tree and the warnings expected of it. -/
def checkCompilation (expectation : Expectation) (compilation : Compilation)
    : Option Mismatch :=
  match expectation.tree.bind (checkTree · compilation.tree.outline) with
  | some mismatch => some mismatch
  | none => expectation.warnings.bind (checkWarnings · compilation.warnings)

/-- Compares an outcome with what is expected of it; none when it is as expected. -/
def check (expectation : Expectation) (outcome : Except Diagnostic Compilation)
    : Option Mismatch :=
  if expectation.isMalformed then
    match outcome with
    | .error failure => if failure.isMalformed then none else some (.wellFormed (some failure))
    | .ok _ => some (.wellFormed none)
  else
    match expectation.error, outcome with
    | some expected, .error failure =>
        if Text.hasPart expected failure.message then none
        else some (.otherError expected failure)
    | some expected, .ok _ => some (.noError expected)
    | none, .error failure => some (.unexpectedError failure)
    | none, .ok compilation => expectation.checkCompilation compilation

end Expectation

/-- Compiles the card of a fixture and compares the outcome with what is expected. -/
def Fixture.run (fixture : Fixture) : Option Mismatch :=
  fixture.expectation.check (compile fixture.source fixture.expectation.options 0)

end MessageCard
