import ProseLinter.Config.Basic
import ProseLinter.Extension.Family
import ProseLinter.Lint
import ProseLinter.Scan

/-!
# Run — linting files

A run scans for files, resolves every enabled rule, loads the rules, and lints file after file.  The
loads may run in any order; the order in which they end decides which failure is told.
-/

namespace ProseLinter

/-- What a run came to. -/
structure LintRun where
  results : List LintResult
  deriving BEq, Repr

namespace LintRun

def filesChecked (r : LintRun) : Nat := r.results.length

/-- The status of a run: one when there are errors. -/
def exitCode (r : LintRun) : Nat := if LintResult.hasErrors r.results then 1 else 0

end LintRun

namespace Run

def logger : String := "textguard.linter"

def scanLogger : String := "textguard.scanner"

def note (level : LogLevel) (text : List Char) : Work Unit :=
  Work.update fun w => w.note level logger text

/-! ## Rules -/

/-- Resolves names, one after the other. -/
def resolveAll (family : Family) (cwd : Option Path) : List String → Work (List Resolution)
  | [] => return []
  | name :: rest => do
    let r ← family.resolve cwd name
    return r :: (← resolveAll family cwd rest)

/-- **Loads** in the given order, each with the number of its rule; every load is run, whatever came
of the others. -/
def loadEach (member : String) (resolutions : List Resolution) (w : Workspace) :
    List Nat → Workspace × List (Nat × Except Failure Extension)
  | [] => (w, [])
  | i :: rest =>
    match resolutions[i]? with
    | none => loadEach member resolutions w rest
    | some r =>
      let (w, result) := (w.noteLoading r).load member r
      let (w, more) := loadEach member resolutions w rest
      (w, (i, result) :: more)

/-- The first failure among loads. -/
def firstFailure? : List (Nat × Except Failure Extension) → Option Failure
  | [] => none
  | (_, .error e) :: _ => some e
  | (_, .ok _) :: rest => firstFailure? rest

/-- The extension that a load with a number gave. -/
def loaded? (results : List (Nat × Except Failure Extension)) (i : Nat) : Option Extension :=
  match results.lookup i with
  | some (.ok e) => some e
  | _ => none

/-- **The enabled rules**, loaded in the order `schedule` and given in the order of the
configuration. -/
def loadRulesIn (schedule : List Nat) (family : Family) (config : Config) (cwd : Option Path) :
    Work (List ConfiguredRule) := do
  let names ← Work.ofExcept config.enabledRules
  let resolutions ← resolveAll family cwd names
  let results ← Work.ofStep fun w =>
    let (w, results) := loadEach family.member resolutions w schedule
    (w, .ok results)
  match firstFailure? results with
  | some e => throw e
  | none =>
    return (names.zip (List.range names.length)).filterMap fun (name, i) =>
      (loaded? results i).map fun e => ⟨name, e.function.rule, config.ruleConfig name⟩

/-- The enabled rules, loaded in their own order. -/
def loadRules (family : Family) (config : Config) (cwd : Option Path) :
    Work (List ConfiguredRule) :=
  loadRulesIn (List.range config.rules.length) family config cwd

/-! ## Files -/

/-- The text in the bytes of a file, its line breaks made one. -/
def textOf (bytes : List UInt8) : Except Failure (List Char) :=
  match Text.decode? bytes with
  | some cs => .ok (Text.lineFeeds cs)
  | none => .error .undecodable

/-- The document in a file. -/
def documentAt (w : Workspace) (p : Path) : Except Failure Document :=
  match w.tree.read w.cwd p with
  | .ok content => do return ⟨← textOf content.toBytes, some p.text⟩
  | .error fault => .error (.file fault)

/-- Lints files, one after the other. -/
def lintFiles (rules : List ConfiguredRule) : List Path → Work (List LintResult)
  | [] => return []
  | p :: ps => do
    note .debug ("Checking ".toList ++ p.chars)
    let document ← Work.ofStep fun w => (w, documentAt w p)
    let messages ← Work.ofExcept (Lint.run document .none rules)
    note .debug (p.chars ++ ": ".toList ++ Integer.text messages.length ++ " diagnostics".toList)
    return ⟨p.text, messages⟩ :: (← lintFiles rules ps)

/-- Scans for files, with a line in the log for each one that is excluded. -/
def scan (config : Config) (paths : List Path) : Work (List Path) := do
  let included ← Work.ofExcept (Fix.lift (Config.textsOf config.included))
  let excluded ← Work.ofExcept (Fix.lift (Config.textsOf config.excluded))
  let found ← Work.ofStep fun w => (w, Scan.run w.tree w.cwd included excluded paths)
  Work.update fun w =>
    found.excluded.foldl (fun w p => w.note .debug scanLogger ("Excluded ".toList ++ p.chars)) w
  return found.files

/-- The exception by which an iterator ends. -/
def stopKind : String := "StopIteration"

/-- A task that raises the end of an iteration fails with a runtime error in its place. -/
def asTask {α : Type} (work : Work α) : Work α :=
  tryCatch work fun e =>
    match e with
    | .raised exception =>
      if exception.kind = stopKind then
        throw (.raised ⟨"RuntimeError", [.text ("coroutine raised " ++ stopKind)]⟩)
      else throw e
    | e => throw e

/-- **Linting paths.** -/
def lintPaths (home : Family.Home) (config : Config) (paths : List Path) (cwd : Option Path) :
    Work LintRun := asTask do
  let files ← scan config paths
  note .info ("Found ".toList ++ Integer.text files.length ++ " files".toList)
  let rules ← loadRules (Family.rules home) config cwd
  note .info ("Loaded ".toList ++ Integer.text rules.length ++ " rules".toList)
  let results ← lintFiles rules files
  note .info "Completed in <time>s".toList
  return ⟨results⟩

/-- **The report** on a run in the configured format. -/
def report (home : Family.Home) (config : Config) (run : LintRun) : Work Formatted := asTask do
  let formatter ← (Family.lintFormatters home).loadFormatter ⟨config.formatter, config.color, []⟩
  Work.ofExcept (formatter.format (.lint run.results))

end Run

end ProseLinter
