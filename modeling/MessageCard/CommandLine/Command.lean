import MessageCard.CommandLine.Switch
import MessageCard.Number.Written
import MessageCard.Options.Basic

/-!
The commands of the program, and how command lines spell them.
-/

namespace MessageCard

/-- The form in which a compiled card is printed. -/
inductive Format
  | tree
  | json
  | html
deriving DecidableEq, Repr

namespace Format

/-- The form as command lines spell it. -/
def name : Format → String
  | tree => "tree"
  | json => "json"
  | html => "html"

/-- The form that command lines spell so. -/
def ofName? (text : String) : Option Format :=
  [tree, json, html].find? fun format => format.name == text

end Format

/-- Compiling a card: the file, the options that are given, and what is printed. -/
structure CompileCommand where
  file : String
  level : Option Level
  locale : Option String
  maxDepth : Option Nat
  config : Option String
  format : Format
  isCheck : Bool
deriving DecidableEq, Repr

/-- Running fixtures: where they are, and the categories that are requested. -/
structure TestCommand where
  path : String
  categories : List String
  listsCategories : Bool
deriving DecidableEq, Repr

/-- A command of the program. -/
inductive Command
  | compile (command : CompileCommand)
  | test (command : TestCommand)
deriving DecidableEq, Repr

/-- A command, and whether reports go without colour. -/
structure Invocation where
  command : Command
  noColor : Bool
deriving DecidableEq, Repr

/-! ## Values -/

/-- Reads a natural number of 64 bits; a plus sign may stand before it. -/
def wordNat? (text : String) : Option Nat :=
  let digits :=
    match text.toList with
    | '+' :: rest => rest
    | rest => rest
  if digits.isEmpty || !digits.all Char.isDigit then none
  else
    let value := readDigits 0 digits
    if value < Nat.pow 2 64 then some value else none

/-- Takes a value that may be given once. -/
def takeOnce {σ α : Type} (name : String) (given : σ → Option α) (read? : String → Option α)
    (refusal : String → String → UsageError) (put : σ → α → σ) (draft : σ) (text : String)
    : Usage σ :=
  if (given draft).isSome then .error (.repeated name)
  else
    match read? text with
    | some value => .ok (put draft value)
    | none => .error (refusal name text)

/-- A switch with a value that may be given once. -/
def Switch.once {σ α : Type} (long : String) (short : Option Char) (given : σ → Option α)
    (read? : String → Option α) (refusal : String → String → UsageError) (put : σ → α → σ)
    : Switch σ where
  long := long
  short := short
  effect := .value (takeOnce long given read? refusal put)

/-- A switch without a value that may be given once. -/
def Switch.flag {σ : Type} (long : String) (given : σ → Bool) (put : σ → σ) : Switch σ where
  long := long
  short := none
  effect := .flag fun draft => if given draft then none else some (put draft)

/-- The switch for help. -/
def Switch.help {σ : Type} : Switch σ where
  long := "help"
  short := some 'h'
  effect := .help

/-- The switch for the version. -/
def Switch.version {σ : Type} : Switch σ where
  long := "version"
  short := some 'V'
  effect := .version

/-! ## The compile command -/

/-- A compile command of which not every part was read. -/
structure CompileDraft where
  noColor : Bool := false
  file : Option String := none
  level : Option Level := none
  locale : Option String := none
  maxDepth : Option Nat := none
  config : Option String := none
  format : Option Format := none
  isCheck : Bool := false
deriving DecidableEq, Repr

/-- The grammar of the compile command. -/
def CompileDraft.grammar : Grammar CompileDraft where
  topic := .compile
  switches := [
    .flag "no-color" CompileDraft.noColor (fun draft => { draft with noColor := true }),
    .once "validate" none CompileDraft.level Level.ofName? .badValue
      (fun draft level => { draft with level := some level }),
    .once "locale" (some 'l') CompileDraft.locale some .badValue
      (fun draft locale => { draft with locale := some locale }),
    .once "max-depth" none CompileDraft.maxDepth wordNat? .badValue
      (fun draft maxDepth => { draft with maxDepth := some maxDepth }),
    .once "config" none CompileDraft.config some .badValue
      (fun draft config => { draft with config := some config }),
    .once "format" (some 'f') CompileDraft.format Format.ofName? .badChoice
      (fun draft format => { draft with format := some format }),
    .flag "check" CompileDraft.isCheck (fun draft => { draft with isCheck := true }),
    .help]
  hasRoom draft := draft.file.isNone
  place draft file := { draft with file := some file }

/-- The command of a draft, which must have a file. -/
def CompileDraft.command (draft : CompileDraft) : Usage CompileCommand :=
  match draft.file with
  | none => .error (.missingArgument "FILE")
  | some file =>
      .ok {
        file
        level := draft.level
        locale := draft.locale
        maxDepth := draft.maxDepth
        config := draft.config
        format := draft.format.getD .tree
        isCheck := draft.isCheck }

/-! ## The test command -/

/-- A test command of which not every part was read. -/
structure TestDraft where
  noColor : Bool := false
  path : Option String := none
  categories : List String := []
  listsCategories : Bool := false
deriving DecidableEq, Repr

/-- The grammar of the test command. -/
def TestDraft.grammar : Grammar TestDraft where
  topic := .test
  switches := [
    .flag "no-color" TestDraft.noColor (fun draft => { draft with noColor := true }),
    { long := "category"
      short := some 'c'
      effect := .value fun draft text =>
        .ok { draft with categories := draft.categories ++ [text] } },
    .flag "list-categories" TestDraft.listsCategories
      (fun draft => { draft with listsCategories := true }),
    .help]
  hasRoom draft := draft.path.isNone
  place draft path := { draft with path := some path }

/-- The command of a draft, which must have a path. -/
def TestDraft.command (draft : TestDraft) : Usage TestCommand :=
  match draft.path with
  | none => .error (.missingArgument "PATH")
  | some path =>
      .ok { path, categories := draft.categories, listsCategories := draft.listsCategories }

/-! ## Command lines -/

/-- The words that name commands. -/
def commandWords : List String :=
  ["compile", "test", "help"]

/-- The switches before the command; the draft says whether reports go without colour. -/
def programGrammar : Grammar Bool where
  topic := .program
  switches := [.flag "no-color" id (fun _ => true), .help, .version]
  hasRoom _ := false
  place draft _ := draft

/-- What help is about that is asked for by a word. -/
def Topic.ofWord? : String → Option Topic
  | "compile" => some .compile
  | "test" => some .test
  | "help" => some .help
  | _ => none

/-- The error in which a request for help ends. -/
def helpError : List String → UsageError
  | [] => .help .program
  | word :: rest =>
      match Topic.ofWord? word, rest with
      | none, _ => .unknownCommand word
      | some topic, [] => .help topic
      | some _, extra :: _ => .unknownCommand extra

/-- The error of a command line without a command. -/
def commandless (noColor : Bool) : UsageError :=
  if noColor then .noCommand else .nothingGiven

/-- The error of words after two dashes, where no command may follow. -/
def dashedError (noColor : Bool) : List String → UsageError
  | [] => commandless noColor
  | word :: _ => if commandWords.contains word then .unknownArgument word else .unknownCommand word

namespace Invocation

/-- Reads the words after the name of the compile command. -/
def readCompile (noColor : Bool) (words : List String) : Usage Invocation := do
  let draft ← CompileDraft.grammar.read words (.settled {})
  let command ← draft.command
  return { command := .compile command, noColor := noColor || draft.noColor }

/-- Reads the words after the name of the test command. -/
def readTest (noColor : Bool) (words : List String) : Usage Invocation := do
  let draft ← TestDraft.grammar.read words (.settled {})
  let command ← draft.command
  return { command := .test command, noColor := noColor || draft.noColor }

/-- Reads the words after the name of the program. -/
def read (noColor : Bool) : List String → Usage Invocation
  | [] => .error (commandless noColor)
  | "compile" :: rest => readCompile noColor rest
  | "test" :: rest => readTest noColor rest
  | "help" :: rest => .error (helpError rest)
  | "--" :: rest => .error (dashedError noColor rest)
  | word :: rest =>
      match programGrammar.readSwitch? word (.settled noColor) with
      | some reading => do read (← (← reading).settle) rest
      | none => .error (.unknownCommand word)

/-- Reads a command line, of which the first word is the name of the program. -/
def ofWords (words : List String) : Usage Invocation :=
  read false (words.drop 1)

end Invocation

/-- Whether a word of a command line is no switch. -/
def isBare (word : String) : Bool :=
  word.toList.head? != some '-'

/-- The command line with the compile command put in, when its first bare word names no
command. -/
def withDefaultCommand (words : List String) : List String :=
  match words with
  | [] => []
  | program :: rest =>
      match rest.find? isBare with
      | none => words
      | some word =>
          if commandWords.contains word then words else program :: "compile" :: rest

end MessageCard
