import ProseLinter.Config.Basic
import ProseLinter.FileTree.Collect
import ProseLinter.Pattern.Glob

/-!
# Scan — which files are linted

All files at or below the given paths are held against the patterns, each relative to its **base**:
the first of the given directories above it.
-/

namespace ProseLinter

/-- The files that were found: those that patterns exclude, and those to lint. -/
structure Scan where
  excluded : List Path
  files : List Path
  deriving DecidableEq, Repr

namespace Scan

variable {α : Type}

/-- Whether there is a file at a path; a fault is a failure. -/
def isFile (tree : Entry α) (cwd : Location) (p : Path) : Except Failure Bool :=
  match tree.isFileAt? cwd p with
  | .ok b => .ok b
  | .error fault => .error (.file fault)

/-- **The base of a file**: the directory of the input that is the file, or the input above it. -/
def base (tree : Entry α) (cwd : Location) (file : Path) : List Path → Except Failure Path
  | [] => .ok file.parent
  | p :: ps => do
    let input ← tree.resolve cwd p
    if ← isFile tree cwd input then
      if file = input then return input.parent else base tree cwd file ps
    else
      match file.relativeTo? input with
      | some _ => return input
      | none => base tree cwd file ps

/-- All files at or below the given paths. -/
def collect (tree : Entry α) (cwd : Location) : List Path → Except Failure (List Path)
  | [] => .ok []
  | p :: ps => do
    let input ← tree.resolve cwd p
    match tree.filesAt cwd input with
    | .ok files => return files ++ (← collect tree cwd ps)
    | .error fault => throw (.file fault)

/-- What becomes of one file. -/
inductive Verdict where
  | excluded
  | included
  | ignored
  deriving DecidableEq, Repr

/-- **The verdict on a file**; exclusions come first. -/
def verdict (included excluded : List String) (base file : Path) : Verdict :=
  if Glob.matchesAny excluded base file then .excluded
  else if Glob.matchesAny included base file then .included
  else .ignored

/-- The files with their verdicts. -/
def judge (tree : Entry α) (cwd : Location) (included excluded : List String)
    (inputs : List Path) : List Path → Except Failure (List (Path × Verdict))
  | [] => .ok []
  | file :: rest => do
    let b ← base tree cwd file inputs
    return (file, verdict included excluded b file)
      :: (← judge tree cwd included excluded inputs rest)

/-- Files in the order of paths, each of them once. -/
def sorted (files : List Path) : List Path := files.eraseDups.mergeSort fun p q => !q.before p

/-- **Scanning.** -/
def run (tree : Entry α) (cwd : Location) (included excluded : List String)
    (inputs : List Path) : Except Failure Scan := do
  let files ← collect tree cwd inputs
  let judged ← judge tree cwd included excluded inputs files
  return {
    excluded := (judged.filter (·.2 = .excluded)).map (·.1)
    files := sorted ((judged.filter (·.2 = .included)).map (·.1)) }

end Scan

end ProseLinter
