import ProseLinter.CommandLine.Options

/-!
# CommandLine/Help — the commands, their options and their help
-/

namespace ProseLinter.CommandLine

/-- A command. -/
inductive Command where
  | config
  | formatters
  | lint
  deriving DecidableEq, Repr

namespace Command

def name : Command → String
  | config => "config"
  | formatters => "formatters"
  | lint => "lint"

/-- The command of a name. -/
def ofName? (s : String) : Option Command := [config, formatters, lint].find? fun c => c.name == s

def options : Command → List OptionSpec
  | config => [⟨"--json", false⟩, ⟨"--help", false⟩]
  | formatters => [⟨"--fix", false⟩, ⟨"--help", false⟩]
  | lint =>
    [⟨"--format", true⟩, ⟨"--color", false⟩, ⟨"--no-color", false⟩, ⟨"--rule", true⟩,
      ⟨"--help", false⟩]

/-- What stands after a command's name in its usage. -/
def usageTail : Command → String
  | config => "[OPTIONS]"
  | formatters => "[OPTIONS]"
  | lint => "[OPTIONS] [PATHS]..."

/-- The lines of help below the usage. -/
def helpLines : Command → List String
  | config =>
    [ "  Show resolved configuration.",
      "",
      "Options:",
      "  --json  Output configuration as JSON",
      "  --help  Show this message and exit." ]
  | formatters =>
    [ "  List bundled formatters.",
      "",
      "Options:",
      "  --fix   List fix-result formatters instead",
      "  --help  Show this message and exit." ]
  | lint =>
    [ "  Run linting on text files.",
      "",
      "Options:",
      "  --format TEXT         Formatter name, file path or package (overrides config)",
      "  --color / --no-color  Colorize output (overrides config)",
      "  --rule TEXT           Enable a rule by name, file path or package (repeatable)",
      "  --help                Show this message and exit." ]

end Command

/-- The options before the command. -/
def globalOptions : List OptionSpec :=
  [⟨"--version", false⟩, ⟨"--config", true⟩, ⟨"--verbose", false⟩, ⟨"--debug", false⟩,
    ⟨"--help", false⟩]

/-- The lines of help of the program below its usage. -/
def globalHelpLines : List String :=
  [ "  textguard - A pluggable linter for prose and plain text.",
    "",
    "Options:",
    "  --version      Show the version and exit.",
    "  --config PATH  Path to pyproject.toml (default: search upward from current",
    "                 directory)",
    "  --verbose      Show progress and timing",
    "  --debug        Show detailed trace",
    "  --help         Show this message and exit.",
    "",
    "Commands:",
    "  config      Show resolved configuration.",
    "  formatters  List bundled formatters.",
    "  lint        Run linting on text files." ]

/-- The line that tells the version. -/
def versionLine : String := "textguard, version 0.1.0"

/-- The program with the command at hand, if there is one. -/
def commandPath (program : String) : Option Command → String
  | none => program
  | some c => program ++ " " ++ c.name

/-- How the program or a command is called. -/
def usage (program : String) (command : Option Command) : String :=
  let tail :=
    match command with
    | none => "[OPTIONS] COMMAND [ARGS]..."
    | some c => c.usageTail
  "Usage: " ++ commandPath program command ++ " " ++ tail

/-- **The help** of the program or of a command. -/
def help (program : String) (command : Option Command) : String :=
  let lines :=
    match command with
    | none => globalHelpLines
    | some c => c.helpLines
  "\n".intercalate (usage program command :: "" :: lines)

/-- The usage and the hint that stand above an error. -/
def usageAndHint (program : String) (command : Option Command) : String :=
  usage program command ++ "\nTry '" ++ commandPath program command ++ " --help' for help.\n"

end ProseLinter.CommandLine
