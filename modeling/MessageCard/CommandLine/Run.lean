import MessageCard.CommandLine.Command
import MessageCard.CommandLine.Help
import MessageCard.Json.Writer
import MessageCard.Node.Encoding
import MessageCard.Node.Html
import MessageCard.Options.Toml
import MessageCard.Report.Snippet
import MessageCard.Suite.Run

/-!
Carrying out command lines.  The files are given as what each path leads to; what is left is an
exit status and the text on each stream.  Three things are left out: the colors that a terminal
shows in the reports of a compilation, words of a command line that are no texts, on which the
program gives up before it reads any, and streams that refuse what is written to them.
-/

namespace MessageCard

/-- What each path leads to. -/
abbrev Files :=
  String → Except ReadError FileTree

/-- The text of the file at a path. -/
def Files.text (files : Files) (path : String) : Except ReadError String :=
  (files path).bind FileTree.content

/-- A message about a file that is not read. -/
def unreadable (path : String) (error : ReadError) : String :=
  "cannot read '" ++ path ++ "': " ++ error.message

/-- Why options are not loaded. -/
inductive ConfigError
  | unreadable (path : String) (error : ReadError)
  | invalid (path : String)
deriving DecidableEq, Repr

/-- The wording of a failure to load options.  What the TOML reader itself says about a refused
file, behind the colon, is left out. -/
def ConfigError.message : ConfigError → String
  | unreadable path error => MessageCard.unreadable path error
  | invalid path => "invalid config '" ++ path ++ "': "

namespace CompileCommand

/-- The options of the configuration file; without one, the defaults. -/
def configured (command : CompileCommand) (files : Files) : Except ConfigError Options :=
  match command.config with
  | none => .ok {}
  | some path =>
      match files.text path with
      | .error error => .error (.unreadable path error)
      | .ok text =>
          match Options.ofToml? text with
          | none => .error (.invalid path)
          | some options => .ok options

/-- Options with those put in their place that the command gives itself. -/
def overriding (command : CompileCommand) (options : Options) : Options where
  level := command.level.getD options.level
  locale := command.locale.or options.locale
  maxDepth := command.maxDepth.getD options.maxDepth

/-- The options of the compilation. -/
def options (command : CompileCommand) (files : Files) : Except ConfigError Options :=
  (command.configured files).map command.overriding

end CompileCommand

/-- A tree as it is printed in some form. -/
def Format.render (format : Format) (node : Node) : String :=
  match format with
  | .tree => node.outline
  | .json => node.toJson.pretty ++ "\n"
  | .html => node.html ++ "\n"

/-- The printout of a command that failed with a message. -/
def Printout.failed (message : String) : Printout :=
  { exit := 1, stderr := "error: " ++ message ++ "\n" }

/-- Reports about a source, one after the other. -/
def renderAll (name source : String) (diagnostics : List Diagnostic) : String :=
  String.join (diagnostics.map fun diagnostic => diagnostic.report.render name source)

namespace CompileCommand

/-- The printout of a compilation that succeeded.  Writing a tree as JSON never fails: names of
fields are strings, and a width that is not finite is written as null. -/
def printSuccess (command : CompileCommand) (source : String) (compilation : Compilation)
    : Printout :=
  let reports := renderAll command.file source compilation.warnings
  if command.isCheck then
    { exit := 0, stderr := reports ++ "ok: " ++ command.file ++ " compiled successfully\n" }
  else { exit := 0, stdout := command.format.render compilation.tree, stderr := reports }

/-- Compiles a file. -/
def run (command : CompileCommand) (files : Files) : Printout :=
  match command.options files with
  | .error error => .failed error.message
  | .ok options =>
      match files.text command.file with
      | .error error => .failed (unreadable command.file error)
      | .ok source =>
          match compile source options 0 with
          | .error failure =>
              { exit := 1, stderr := renderAll command.file source [failure] }
          | .ok compilation => command.printSuccess source compilation

end CompileCommand

/-- Runs fixtures, or lists their categories. -/
def TestCommand.run (command : TestCommand) (color : Bool) (files : Files) : Printout :=
  if command.listsCategories then
    { exit := 0,
      stderr := Text.ofLines (Suite.categoryList command.path (files command.path)) }
  else Suite.run color command.path (files command.path) command.categories

/-- Carries out a command.  Whether colors are wanted matters to the report on fixtures only: the
reports of a compilation are given as plain text, without the colors a terminal would show. -/
def Invocation.run (invocation : Invocation) (files : Files) : Printout :=
  match invocation.command with
  | .compile command => command.run files
  | .test command => command.run (!invocation.noColor) files

/-- The printout of a usage error; help that is asked for is no failure. -/
def UsageError.printout (error : UsageError) : Printout :=
  match error with
  | .help _ => { exit := 0, stdout := error.message }
  | .version => { exit := 0, stdout := error.message }
  | _ => { exit := 2, stderr := error.message }

/-- Carries out a command line, of which the first word is the name of the program. -/
def runWords (words : List String) (files : Files) : Printout :=
  match Invocation.ofWords (withDefaultCommand words) with
  | .error error => error.printout
  | .ok invocation => invocation.run files

end MessageCard
