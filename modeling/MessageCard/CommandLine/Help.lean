import MessageCard.CommandLine.Switch

/-!
The texts about the use of the program.  Descriptions are the program's own; how they are laid out
as help, and how a refused command line is worded, is up to the argument parser and given here in a
form of its own.
-/

namespace MessageCard

/-- The name and the version of the program. -/
def versionText : String :=
  "card 0.1.0\n"

namespace Topic

/-- The lines of help about a topic. -/
def lines : Topic → List String
  | program => [
      "Message card compiler", "", "Usage: card [OPTIONS] <COMMAND>", "", "Commands:",
      "  compile  Compile a card document", "  test     Run .test.json fixture files",
      "  help     Print this message or the help of the given subcommand(s)", "", "Options:",
      "      --no-color  Disable colored error output", "  -h, --help      Print help",
      "  -V, --version   Print version"]
  | compile => [
      "Compile a card document", "", "Usage: card compile [OPTIONS] <FILE>", "", "Arguments:",
      "  <FILE>  JSON card file to compile", "", "Options:",
      "      --no-color               Disable colored error output",
      "      --validate <VALIDATE>    Validation level: off, warning or error",
      "  -l, --locale <LOCALE>        Locale used for i18n text, e.g. en_us",
      "      --max-depth <MAX_DEPTH>  Maximum element nesting depth",
      "      --config <CONFIG>        TOML file with compile options (flags take precedence)",
      "  -f, --format <FORMAT>        Output format [default: tree] " ++
        "[possible values: tree, json, html]",
      "      --check                  Compile only, print nothing on success (exit 0 if valid)",
      "  -h, --help                   Print help"]
  | test => [
      "Run .test.json fixture files", "", "Usage: card test [OPTIONS] <PATH>", "",
      "Arguments:", "  <PATH>  Path to a .test.json file or directory containing them", "",
      "Options:", "      --no-color             Disable colored error output",
      "  -c, --category <CATEGORY>  Run only tests in these categories (subfolder names). " ++
        "Repeatable",
      "      --list-categories      List available categories and exit",
      "  -h, --help                 Print help"]
  | help => [
      "Print this message or the help of the given subcommand(s)", "",
      "Usage: card help [COMMAND]...", "", "Arguments:",
      "  [COMMAND]...  Print help for the subcommand(s)"]

/-- The text of help about a topic. -/
def text (topic : Topic) : String :=
  String.join (topic.lines.map (· ++ "\n"))

end Topic

/-- The wording of a usage error.  It stands for that of the argument parser, which says the same
at greater length: with a hint and the usage of the command behind it. -/
def UsageError.message : UsageError → String
  | help topic => topic.text
  | version => versionText
  | nothingGiven => Topic.program.text
  | noCommand => "error: a command is required\n"
  | unknownCommand word => "error: unrecognized command '" ++ word ++ "'\n"
  | unknownArgument word => "error: unexpected argument '" ++ word ++ "' found\n"
  | missingArgument name => "error: the argument <" ++ name ++ "> is required\n"
  | missingValue name => "error: a value is required for '--" ++ name ++ "'\n"
  | badValue name value => "error: invalid value '" ++ value ++ "' for '--" ++ name ++ "'\n"
  | badChoice name value => "error: invalid value '" ++ value ++ "' for '--" ++ name ++ "'\n"
  | unwantedValue name => "error: '--" ++ name ++ "' takes no value\n"
  | repeated name => "error: '--" ++ name ++ "' cannot be used multiple times\n"

end MessageCard
