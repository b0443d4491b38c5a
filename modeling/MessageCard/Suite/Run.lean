import MessageCard.Fixture.Check
import MessageCard.Suite.Basic

/-!
Running suites.  The report lists each fixture under its category, then the failures with their
reasons, then the counts; the run succeeds when something was run and nothing failed.
-/

namespace MessageCard

/-- What a program leaves behind: its exit status, and what it wrote to each stream. -/
structure Printout where
  exit : Nat
  stdout : String := ""
  stderr : String := ""
deriving DecidableEq, Repr

/-- Lines of text, each ended by a newline. -/
def Text.ofLines (lines : List String) : String :=
  String.join (lines.map (· ++ "\n"))

/-- The outcome of one fixture: what it is called, and why it failed. -/
structure FixtureResult where
  label : String
  failure : Option String
deriving DecidableEq, Repr

namespace FixtureResult

/-- Whether the fixture passed. -/
def hasPassed (result : FixtureResult) : Bool :=
  result.failure.isNone

/-- Drops an ending of a text as often as it is there.  The first argument bounds the
repetitions. -/
def dropEndings (ending : List Char) : Nat → List Char → List Char
  | 0, text => text
  | bound + 1, text =>
      if ending.isSuffixOf text then
        dropEndings ending bound (text.take (text.length - ending.length))
      else text

/-- The label of a fixture without a description: its file name without the ending. -/
def labelOfName (name : FileName) : String :=
  match name.text? with
  | some text => String.ofList (dropEndings FixtureFile.ending.toList text.length text.toList)
  | none => "?"

/-- Runs a fixture file. -/
def ofFile (name : FileName) (content : Except ReadError String) : FixtureResult :=
  match content with
  | .error error =>
      { label := labelOfName name, failure := some ("cannot read file: " ++ error.message) }
  | .ok text =>
      match Fixture.read text with
      | .error fault =>
          { label := labelOfName name,
            failure := some ("frontmatter error: " ++ fault.message) }
      | .ok fixture =>
          { label := fixture.expectation.description.getD (labelOfName name),
            failure := fixture.run.map Mismatch.message }

end FixtureResult

/-- A fixture to be run, under the place by which reports name it. -/
structure Suite.Entry where
  place : String
  name : FileName
  content : Except ReadError String

/-- What is run: categories with their fixtures. -/
abbrev Suite.Plan :=
  List (String × List Suite.Entry)

namespace Suite

/-- The plan of a suite below a root. -/
def plan (root : String) (suite : Suite) : Plan :=
  suite.map fun (category, files) =>
    (category, files.map fun file =>
      { place := file.place root, name := file.name, content := file.content })

/-- A fixture that was run. -/
structure Done where
  place : String
  result : FixtureResult
deriving DecidableEq, Repr

/-- Runs a fixture. -/
def Entry.run (entry : Entry) : Done where
  place := entry.place
  result := .ofFile entry.name entry.content

/-! ## Reports -/

/-- A text in a colour of the terminal. -/
def paint (color : Bool) (code text : String) : String :=
  if color then "\x1b[" ++ code ++ "m" ++ text ++ "\x1b[0m" else text

/-- The line of a fixture. -/
def Done.line (color : Bool) (done : Done) : String :=
  "  " ++
    (if done.result.hasPassed then paint color "32" "PASS" else paint color "31" "FAIL") ++
    "  " ++ done.result.label

/-- The line above the fixtures of a category. -/
def heading (color : Bool) (category : String) : String :=
  paint color "1" (title category)

/-- The lines of a failure. -/
def failureLines (place reason : String) : List String :=
  "" :: ("  --- " ++ place ++ " ---") ::
    (Text.lines reason.toList).map fun line => "  " ++ String.ofList line

/-- The lines about failures, given by their places and reasons. -/
def failuresLines (failures : List (String × String)) : List String :=
  if failures.isEmpty then []
  else "" :: "failures:" :: failures.flatMap fun (place, reason) => failureLines place reason

/-- The last line of a report. -/
def countLine (color : Bool) (passed failed : Nat) : String :=
  if failed = 0 then
    "test result: " ++ paint color "32" "ok" ++ ". " ++ toString passed ++ " passed, 0 failed"
  else
    "test result: " ++ paint color "31" "FAILED" ++ ". " ++ toString passed ++ " passed, " ++
      toString failed ++ " failed (of " ++ toString (passed + failed) ++ ")"

/-! ## Tallies -/

/-- What a run has come to so far: the lines that are reported, the number of fixtures that
passed, and the failures with their places and reasons. -/
structure Tally where
  lines : List String
  passed : Nat
  failures : List (String × String)
deriving DecidableEq, Repr

namespace Tally

/-- Nothing has been run. -/
def start : Tally :=
  { lines := [], passed := 0, failures := [] }

/-- Adds a fixture that was run. -/
def add (color : Bool) (tally : Tally) (done : Done) : Tally :=
  let lines := tally.lines ++ [done.line color]
  match done.result.failure with
  | none => { tally with lines, passed := tally.passed + 1 }
  | some reason => { tally with lines, failures := tally.failures ++ [(done.place, reason)] }

/-- Runs the fixtures of a category, below a heading. -/
def addCategory (color : Bool) (tally : Tally) (category : String) (entries : List Entry)
    : Tally :=
  entries.foldl (fun tally entry => tally.add color entry.run)
    { tally with lines := tally.lines ++ ["", heading color category] }

/-- The printout of a run that has come to its end. -/
def printout (color : Bool) (tally : Tally) : Printout where
  exit := if tally.failures.length = 0 then 0 else 1
  stderr :=
    Text.ofLines
      (tally.lines ++ failuresLines tally.failures ++
        ["", countLine color tally.passed tally.failures.length])

end Tally

/-- Runs the fixtures of a plan. -/
def Plan.run (color : Bool) (plan : Plan) : Tally :=
  plan.foldl (fun tally (category, entries) => tally.addCategory color category entries) .start

/-! ## Runs -/

/-- The message that there are no fixtures below a root. -/
def noFixtures (root : String) : String :=
  "no " ++ FixtureFile.ending ++ " files found in " ++ root

/-- The last name in a path. -/
def lastName (path : String) : String :=
  (FileTree.places path).getLastD "?"

/-- Runs the fixtures below a root, in the categories that are requested. -/
def runBelow (color : Bool) (root : String) (suite : Suite) (requests : List String)
    : Printout :=
  let warnings := (suite.unmatched requests).map suite.warning
  let selected := suite.select requests
  if suite.isEmpty then { exit := 1, stderr := Text.ofLines [noFixtures root] }
  else if selected.isEmpty then
    { exit := 1, stderr := Text.ofLines (warnings ++ ["no matching categories found"]) }
  else
    let printout := ((selected.plan root).run color).printout color
    { printout with stderr := Text.ofLines warnings ++ printout.stderr }

/-- Runs what stands at a path: one file, whatever its name and the requests, or the fixtures
below a folder. -/
def run (color : Bool) (path : String) (found : Except ReadError FileTree)
    (requests : List String) : Printout :=
  match found with
  | .ok (.file content) =>
      (Plan.run color [("", [{ place := path, name := lastName path, content }])]).printout color
  | .ok tree => runBelow color path (ofTree tree) requests
  | .error _ => runBelow color path [] requests

/-- The lines that list the categories of what stands at a path. -/
def categoryList (path : String) (found : Except ReadError FileTree) : List String :=
  match found with
  | .ok (.file _) => ["(single file, no categories)"]
  | .ok tree =>
      let suite := ofTree tree
      if suite.isEmpty then [noFixtures path]
      else
        "available categories:" :: suite.map fun (category, files) =>
          "  " ++ title category ++ " (" ++ toString files.length ++ " tests)"
  | .error _ => [noFixtures path]

end Suite

end MessageCard
