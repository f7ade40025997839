import ProseLinter.Extension.Load

/-!
# Extension/Family — rules and the two kinds of formatters

A family of extensions has a directory of bundled ones, a prefix for its packages, and the name of
the member through which its extensions are called.
-/

namespace ProseLinter

/-- Work on a workspace that may fail; what was done before a failure stays done. -/
abbrev Work := ExceptT Failure (StateM Workspace)

namespace Work

/-- Work that is given as a function on workspaces. -/
def ofStep {α : Type} (step : Workspace → Workspace × Except Failure α) : Work α :=
  ExceptT.mk fun w => let (w, r) := step w; (r, w)

/-- A result that needs no work. -/
def ofExcept {α : Type} (r : Except Failure α) : Work α := ofStep fun w => (w, r)

/-- Does work in a workspace. -/
def run {α : Type} (work : Work α) (w : Workspace) : Workspace × Except Failure α :=
  let (r, w) := ExceptT.run work w
  (w, r)

/-- Changes the workspace. -/
def update (f : Workspace → Workspace) : Work Unit := ofStep fun w => (f w, .ok ())

/-- Resolves a name, with a line in the log. -/
def resolve (s : Search) (name : String) : Work Resolution :=
  ofStep fun w =>
    match w.resolve s name with
    | .ok r => (w.noteResolution s r, .ok r)
    | .error e => (w, .error e)

end Work

/-- A family of extensions. -/
structure Family where
  bundled : Path
  packagePrefix : String
  member : String
  deriving DecidableEq, Repr

namespace Family

/-- The directory of the linter's own extensions. -/
structure Home where
  path : Path
  deriving DecidableEq, Repr

def formatterMember : String := "format"

/-- The formatters of lint results. -/
def lintFormatters (home : Home) : Family :=
  ⟨home.path.child "formatters", "textguard-formatter-", formatterMember⟩

/-- The formatters of fix results. -/
def fixFormatters (home : Home) : Family :=
  ⟨home.path.child "fix_formatters", "textguard-fix-formatter-", formatterMember⟩

def rules (home : Home) : Family := ⟨home.path.child "rules", "textguard-rule-", "create"⟩

/-- Where the extensions of a family are looked for. -/
def search (f : Family) (cwd : Option Path) : Search :=
  { bundled := f.bundled, packagePrefix := f.packagePrefix, cwd := cwd }

/-- Resolves a name among the extensions of a family. -/
def resolve (f : Family) (cwd : Option Path) (name : String) : Work Resolution :=
  Work.resolve (f.search cwd) name

/-- Loads a resolution, with a line in the log. -/
def load (member : String) (r : Resolution) : Work Extension :=
  Work.ofStep fun w => (w.noteLoading r).load member r

/-! ## Listing -/

/-- The suffixes of extensions. -/
def suffixes : List String := [Workspace.sourceSuffix, Workspace.compiledSuffix]

/-- The names of extensions among the names of files: without a suffix, and not private. -/
def namesAmong (files : List String) : List String :=
  let named := files.filterMap fun file =>
    let p : Path := ⟨.relative, [file]⟩
    if file.toList.head? = some '_' then none
    else if suffixes.contains p.suffix then some p.stem else none
  named.eraseDups.mergeSort fun a b => decide (¬ b < a)

/-- Those of some names in a directory that are names of files; a fault is a failure. -/
def filesAmong (w : Workspace) (directory : Path) : List String → Except Failure (List String)
  | [] => .ok []
  | name :: names =>
    match w.tree.isFileAt? w.cwd (directory.child name) with
    | .error fault => .error (.file fault)
    | .ok isFile => do
      let files ← filesAmong w directory names
      return if isFile then name :: files else files

/-- **The bundled extensions** of a family, in the order of their names. -/
def list (f : Family) (w : Workspace) : Except Failure (List String) :=
  match w.tree.openPath w.cwd f.bundled with
  | .error fault => .error (.file fault)
  | .ok ⟨_, .directory children, _⟩ => do
    return namesAmong (← filesAmong w f.bundled (children.map (·.1)))
  | .ok _ => .error (.file .notDirectory)

/-! ## Formatters -/

/-- A formatter with its configuration. -/
structure Formatter where
  function : Callable
  config : FormatterConfig
  deriving Repr

/-- The report of a formatter. -/
def Formatter.format (f : Formatter) (results : Results) : Except Failure Formatted :=
  f.function.format results f.config

def formatterLogger : String := "textguard.formatting"

/-- A failed load of a formatter. -/
def asMissingFormatter (name : String) : Failure → Failure
  | .load f => .load ⟨name, f.cause, "Could not find formatter " ++ name⟩
  | e => e

/-- **Loading the formatter** that a configuration names. -/
def loadFormatter (f : Family) (config : FormatterConfig) : Work Formatter := do
  Work.update fun w => w.note .debug formatterLogger
    ("formatter name: ".toList ++ config.name.toList)
  let resolution ← f.resolve none config.name
  let extension ← tryCatch (load f.member resolution) fun e =>
    throw (asMissingFormatter config.name e)
  let line := "use formatter: ".toList ++ extension.path.chars
  Work.update fun w => w.note .debug formatterLogger line
  return ⟨extension.function, config⟩

/-- Loading a formatter without a word about it in the log of formatters. -/
def createFormatter (f : Family) (config : FormatterConfig) : Work Formatter := do
  let resolution ← f.resolve none config.name
  let extension ← tryCatch (load f.member resolution) fun e =>
    throw (asMissingFormatter config.name e)
  return ⟨extension.function, config⟩

/-- What the older way of loading a formatter warns of. -/
def createWarning : String × String :=
  ("DeprecationWarning", "create_formatter() is deprecated, use load_formatter()")

end Family

end ProseLinter
