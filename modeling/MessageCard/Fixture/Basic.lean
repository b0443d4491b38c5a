import MessageCard.Text.Blank
import MessageCard.Text.Search
import MessageCard.Toml.Settings

/-!
Fixtures: a card with the outcome that is expected of it.  The file starts with settings
between two lines of dashes; the card follows.
-/

namespace MessageCard

/-- A warning that is expected: a part of its message, and its path when that matters. -/
structure ExpectedWarning where
  contains : String
  path : Option String
deriving DecidableEq, Repr

/-- The settings of a fixture: how the card is compiled, and what is expected of it. -/
structure Expectation where
  description : Option String := none
  level : Level := .warning
  locale : Option String := none
  maxDepth : Option Nat := none
  tree : Option String := none
  error : Option String := none
  isMalformed : Bool := false
  warnings : Option (List ExpectedWarning) := none
deriving DecidableEq, Repr

/-- The options with which the card is compiled. -/
def Expectation.options (expectation : Expectation) : Options where
  level := expectation.level
  locale := expectation.locale
  maxDepth := expectation.maxDepth.getD ({} : Options).maxDepth

/-- An expectation and the card it is about. -/
structure Fixture where
  expectation : Expectation
  source : String
deriving DecidableEq, Repr

namespace Fixture

/-- Why a text is no fixture. -/
inductive Fault
  | noOpening
  | noClosing
  | badSettings
deriving DecidableEq, Repr

/-- The wording of a fault.  What the TOML reader itself says about refused settings, behind the
colon, is left out. -/
def Fault.message : Fault → String
  | noOpening => "missing opening --- frontmatter delimiter"
  | noClosing => "missing closing --- frontmatter delimiter"
  | badSettings => "TOML parse error: "

/-- The dashes that open and close the settings. -/
def dashes : List Char :=
  ['-', '-', '-']

/-- The text after a line end, if it starts with one. -/
def afterLineEnd : List Char → List Char
  | '\n' :: rest => rest
  | '\r' :: '\n' :: rest => rest
  | text => text

/-- Splits a text into its settings and its card.  Byte-order marks at the start are skipped;
the closing dashes are the first that start a line. -/
def split (text : List Char) : Except Fault (List Char × List Char) :=
  let text := text.dropWhile (· == '\ufeff')
  if dashes.isPrefixOf text then
    match Text.splitAt? ('\n' :: dashes) (afterLineEnd (text.drop dashes.length)) with
    | some (settings, card) => .ok (Text.dropRight (· == '\r') settings, card)
    | none => .error .noClosing
  else .error .noOpening

/-- The settings of an expected warning; its first part is missing until it was read. -/
def warningSettings : List (Toml.Setting (Option String × Option String)) := [
  .of "contains" Toml.text? (fun warning contains => (some contains, warning.2)),
  .of "path" Toml.text? (fun warning path => (warning.1, some path))]

/-- Reads an expected warning, which may be an array of its settings in order. -/
def warning? (value : Toml) : Option ExpectedWarning := do
  let (contains, path) ←
    match value with
    | .array items => Toml.fillInOrder warningSettings items (none, none)
    | value => do Toml.fill warningSettings false (none, none) (← value.entries?)
  some { contains := ← contains, path }

/-- Reads expected warnings. -/
def warnings? (value : Toml) : Option (List ExpectedWarning) := do
  (← value.items?).mapM warning?

/-- The settings of a fixture. -/
def settings : List (Toml.Setting Expectation) := [
  .of "description" Toml.text? (fun whole text => { whole with description := some text }),
  .of "validate" Toml.level? (fun whole level => { whole with level }),
  .of "locale" Toml.text? (fun whole locale => { whole with locale := some locale }),
  .of "max_depth" Toml.nat? (fun whole depth => { whole with maxDepth := some depth }),
  .of "expect_tree" Toml.text? (fun whole tree => { whole with tree := some tree }),
  .of "expect_error" Toml.text? (fun whole error => { whole with error := some error }),
  .of "expect_parse_error" Toml.flag? (fun whole isMalformed => { whole with isMalformed }),
  .of "expect_warnings" warnings?
    (fun whole warnings => { whole with warnings := some warnings })]

/-- Reads the settings of a fixture; other settings are skipped. -/
def expectation? (text : List Char) : Option Expectation := do
  Toml.fill settings false {} (← Toml.ofText text)

/-- Reads a fixture. -/
def read (content : String) : Except Fault Fixture :=
  match split content.toList with
  | .error fault => .error fault
  | .ok (settings, card) =>
      match expectation? settings with
      | some expectation => .ok { expectation, source := String.ofList card }
      | none => .error .badSettings

end Fixture

end MessageCard
