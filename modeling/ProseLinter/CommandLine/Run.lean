import ProseLinter.CommandLine.Help
import ProseLinter.Config.Load
import ProseLinter.Config.Show
import ProseLinter.Run

/-!
# CommandLine/Run — what the program prints for its arguments

The arguments select a command; the configuration is loaded before the command's own arguments are
read.  An **outcome** is the status of the program with what it has written.
-/

namespace ProseLinter.CommandLine

/-- The status of a program that has ended; an exit may ask for a truth value in its place. -/
inductive Status where
  | number (code : Int)
  | truth (b : Bool)
  deriving DecidableEq, Repr

/-- What running the program came to: the status, the two outputs, and a failure that nothing has
caught. -/
structure Outcome where
  status : Status
  out : List Char
  err : List Char
  uncaught : Option Failure
  deriving Repr

/-- How the program is run: its name, whether colours are kept in what it prints, and how deeply the
values of a configuration file may be nested. -/
structure Setting where
  program : String
  keepsColors : Bool
  depth : Nat
  deriving DecidableEq, Repr

/-- A text as it is printed, with a line feed. -/
def Setting.printed (s : Setting) (text : List Char) : List Char :=
  (if s.keepsColors then text else Layout.stripCodes text) ++ ['\n']

namespace Outcome

/-- Success, with a text on the output. -/
def printing (s : Setting) (text : List Char) : Outcome := ⟨.number 0, s.printed text, [], none⟩

/-- An error that is told on the error output. -/
def failing (s : Setting) (status : Int) (lines : List (List Char)) : Outcome :=
  ⟨.number status, [], lines.flatMap s.printed, none⟩

/-- A failure that nothing has caught. -/
def uncaughtFailure (e : Failure) : Outcome := ⟨.number 1, [], [], some e⟩

/-- A wrong use of the program or of a command. -/
def misuse (s : Setting) (command : Option Command) (showsUsage : Bool) (text : List Char) :
    Outcome :=
  failing s 2
    ((if showsUsage then [(usageAndHint s.program command).toList] else [])
      ++ ["Error: ".toList ++ text])

/-- The kinds of exceptions that count as the user's wish to stop. -/
def abortKinds : List String := ["EOFError", "KeyboardInterrupt"]

/-- The number of the error that a closed pipe gives. -/
def brokenPipe : Int := 32

/-- What an exit with a value that is no status comes to: the value is printed as it is. -/
def exitingWith (v : Value) : Outcome :=
  match v.plain with
  | .ok cs => ⟨.number 1, cs ++ ['\n'], [], none⟩
  | .error fault => uncaughtFailure (.value fault)

/-- The outcome of an exit that code asks for: its status, zero for nothing, and one for anything
else, which is printed. -/
def exiting : List Value → Outcome
  | [] => ⟨.number 0, [], [], none⟩
  | [.none] => ⟨.number 0, [], [], none⟩
  | [.int i] => ⟨.number i, [], [], none⟩
  | [.bool b] => ⟨.truth b, [], [], none⟩
  | [v] => exitingWith v
  | vs => exitingWith (.tuple vs)

/-- Whether an exception tells of a closed pipe, which ends the program without a word. -/
def isBrokenPipe (exception : Raised) : Bool :=
  match exception.systemError? with
  | some e => e.number.same (.int brokenPipe)
  | none => false

/-- **The outcome of a failure** that no command deals with. -/
def ofFailure (s : Setting) (e : Failure) : Outcome :=
  match e with
  | .raised exception =>
    if exception.kind = "SystemExit" then exiting exception.arguments
    else if abortKinds.contains exception.kind then failing s 1 [[], "Aborted!".toList]
    else if isBrokenPipe exception then ⟨.number 1, [], [], none⟩
    else uncaughtFailure e
  | e => uncaughtFailure e

/-- An outcome as it is captured: its line breaks are line feeds. -/
def captured (o : Outcome) : Outcome :=
  { o with out := Text.joinReturns o.out, err := Text.joinReturns o.err }

end Outcome

/-! ## Commands -/

/-- The failures that the lint command tells about. -/
def isTold : Failure → Bool
  | .load _ => true
  | .edit _ => true
  | .misuse _ => true
  | _ => false

/-- Whether there is anything at a path as it is written. -/
def pathExists (w : Workspace) (text : String) : Except Failure Bool :=
  if text.toList.contains '\x00' then .error (.value .badValue)
  else if text = "" ∨ Entry.maxPath < text.utf8ByteSize then .ok false
  else
    let start := if (Path.rootOf text.toList).isAbsolute then [] else w.cwd
    match w.tree.walk Entry.maxLinks start (Entry.targetNames text) with
    | .ok _ => .ok true
    | .error _ => .ok false

/-- The first of some paths that does not exist. -/
def firstMissing (w : Workspace) : List String → Except Failure (Option String)
  | [] => .ok none
  | p :: ps => do if ← pathExists w p then firstMissing w ps else return some p

/-- The formatter that was asked for, if it can be found. -/
def checkFormat (home : Family.Home) (format : Option String) : Work Bool :=
  match format with
  | none => return true
  | some name => do
    match ← (Family.lintFormatters home).resolve none name with
    | .found _ => return true
    | .notFound _ => return false

/-- **The settings of a run**: those of the configuration, with what the arguments override. -/
def settings (config : Config) (format : Option String) (color : Option Bool)
    (rules : List String) : Config :=
  { config with
    formatter := format.getD config.formatter
    color := color.getD config.color
    rules := Config.withRules config.rules rules }

/-- Whether colours are asked for; the last word counts. -/
def colorOf (a : Arguments) : Option Bool :=
  (a.given.reverse.find? fun g => g.1 == "--color" || g.1 == "--no-color").map (·.1 == "--color")

/-- A run and its report. -/
def lintAndReport (home : Family.Home) (config : Config) (paths : List Path) :
    Work (LintRun × Formatted) := do
  let run ← Run.lintPaths home config paths none
  return (run, ← Run.report home config run)

/-- The lint command. -/
def lint (s : Setting) (home : Family.Home) (config : Config) (a : Arguments) (w : Workspace) :
    Workspace × Outcome :=
  let format := a.last? "--format"
  match firstMissing w a.rest with
  | .error e => (w, .ofFailure s e)
  | .ok (some p) =>
    (w, .misuse s (some .lint) true
      ("Invalid value for '[PATHS]...': Path ".toList ++ Text.quote p.toList
        ++ " does not exist.".toList))
  | .ok none =>
    match (checkFormat home format).run w with
    | (w, .error e) => (w, .ofFailure s e)
    | (w, .ok false) =>
      (w, .misuse s (some .lint) true
        ("Invalid value for '--format': Could not find formatter ".toList
          ++ (format.getD "").toList))
    | (w, .ok true) =>
      let paths := if a.rest.isEmpty then ["."] else a.rest
      let config := settings config format (colorOf a) (a.all "--rule")
      match (lintAndReport home config (paths.map Path.ofText)).run w with
      | (w, .ok (run, output)) =>
        let text := output.toText
        (w, ⟨.number run.exitCode, if text.isEmpty then [] else s.printed text, [], none⟩)
      | (w, .error e) =>
        if isTold e then
          (w, .failing s 1 ["Error: ".toList ++ (e.message?).getD []])
        else (w, .ofFailure s e)

/-- The config command. -/
def showConfig (s : Setting) (config : Config) (a : Arguments) : Outcome :=
  let text : Except Failure (List Char) :=
    if a.has "--json" then Fix.lift config.toJsonText else config.toText
  match text with
  | .ok cs => .printing s cs
  | .error e => .ofFailure s e

/-- The formatters command. -/
def listFormatters (s : Setting) (home : Family.Home) (a : Arguments) (w : Workspace) : Outcome :=
  let family := if a.has "--fix" then Family.fixFormatters home else Family.lintFormatters home
  match family.list w with
  | .ok names => ⟨.number 0, names.flatMap fun n => s.printed n.toList, [], none⟩
  | .error e => .ofFailure s e

/-- The text about arguments that a command has no use for. -/
def extraText (extra : List String) : List Char :=
  "Got unexpected extra argument".toList ++ (if extra.length = 1 then [] else ['s']) ++ " (".toList
    ++ Text.join [' '] (extra.map String.toList) ++ [')']

/-- **A command** with its own arguments. -/
def runCommand (s : Setting) (home : Family.Home) (config : Config) (c : Command)
    (args : List String) (w : Workspace) : Workspace × Outcome :=
  match parse c.options true args with
  | .error fault => (w, .misuse s (some c) fault.showsUsage fault.text)
  | .ok a =>
    if a.has "--help" then (w, .printing s (help s.program (some c)).toList)
    else
      match c with
      | .lint => lint s home config a w
      | c =>
        if a.rest.isEmpty then
          match c with
          | .config => (w, showConfig s config a)
          | _ => (w, listFormatters s home a w)
        else (w, .misuse s (some c) true (extraText a.rest))

/-! ## The program -/

/-- What the options before the command ask for at once: the first of version and help. -/
def immediate? (s : Setting) (a : Arguments) : Option Outcome :=
  match a.given.find? fun g => g.1 == "--version" || g.1 == "--help" with
  | some ("--version", _) => some (.printing s versionLine.toList)
  | some _ => some (.printing s (help s.program none).toList)
  | none => none

/-- Whether the first character of a name is a letter or a number. -/
def startsAlphanumeric (name : String) : Bool :=
  match name.toList with
  | [] => true
  | c :: _ => c != '_' && Text.isWord c

/-- What becomes of a name that is no command.  A name that does not start with a letter or a number
is read again as an option. -/
def unknownCommand (s : Setting) (name : String) (args : List String) : Outcome :=
  let noCommand := Outcome.misuse s none true
    ("No such command ".toList ++ Text.quote name.toList ++ ['.'])
  if startsAlphanumeric name then noCommand
  else
    match parse globalOptions false args with
    | .error fault => .misuse s none fault.showsUsage fault.text
    | .ok a => (immediate? s a).getD noCommand

/-- The lines of the log that the options ask for. -/
def logText (a : Arguments) (log : List LogLine) : List Char :=
  let shown := log.filter fun line =>
    match line.level with
    | .info => a.has "--verbose" || a.has "--debug"
    | .debug => a.has "--debug"
  shown.flatMap fun line => line.logger.toList ++ ": ".toList ++ line.text ++ ['\n']

/-- Loads the configuration and runs the command. -/
def runConfigured (s : Setting) (home : Family.Home) (a : Arguments) (c : Command)
    (args : List String) (w : Workspace) : Workspace × Outcome :=
  let path := (a.last? "--config").map Path.ofText
  match Config.load s.depth FileContent.toBytes w.tree w.cwd path with
  | .error (.rejected e) =>
    (w, .failing s 1
      (("Error: ".toList ++ e.text) :: e.path.toList.map fun p => "  in: ".toList ++ p.toList))
  | .error (.failed e) => (w, .ofFailure s e)
  | .ok config =>
    let (w, outcome) := runCommand s home config c args { w with log := [] }
    (w, { outcome with err := logText a w.log ++ outcome.err })

/-- Runs the program, and gives what it writes as it writes it. -/
def runUncaptured (s : Setting) (home : Family.Home) (args : List String) (w : Workspace) :
    Workspace × Outcome :=
  if args.isEmpty then (w, .failing s 2 [(help s.program none).toList])
  else
    match parse globalOptions false args with
    | .error fault => (w, .misuse s none fault.showsUsage fault.text)
    | .ok a =>
      match immediate? s a with
      | some outcome => (w, outcome)
      | none =>
        match a.rest with
        | [] => (w, .misuse s none true "Missing command.".toList)
        | name :: rest =>
          match Command.ofName? name with
          | some c => runConfigured s home a c rest w
          | none => (w, unknownCommand s name (name :: rest))

/-- **Running the program.** -/
def run (s : Setting) (home : Family.Home) (args : List String) (w : Workspace) :
    Workspace × Outcome :=
  let (w, o) := runUncaptured s home args w
  (w, o.captured)

end ProseLinter.CommandLine
