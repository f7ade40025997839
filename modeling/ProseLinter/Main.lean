import ProseLinter.CommandLine.Run
import ProseLinter.Extension.Bundled

/-!
# Main — the program

The program reads what it may need from the disk into a file tree: everything below the working
directory and below the paths among its arguments, and the configuration files above.  All the rest
is decided by `CommandLine.run`.
-/

namespace ProseLinter

namespace Disk

/-- The names of a path on the disk. -/
def namesOf (path : String) : Location := (Path.ofText path).names

/-- A place on the disk by its names. -/
def placeOf (loc : Location) : IO.FS.DirEntry :=
  ⟨(⟨.absolute, loc.dropLast⟩ : Path).text, loc.getLast?.getD ""⟩

/-- **What stands at a place on the disk**, with everything below it; a link is kept as a link. -/
partial def read? (place : IO.FS.DirEntry) : IO (Option (Entry FileContent)) := do
  try
    match (← place.path.symlinkMetadata).type with
    | .dir =>
      let mut children : List (String × Entry FileContent) := []
      for child in ← place.path.readDir do
        match ← read? child with
        | some entry => children := (child.fileName, entry) :: children
        | none => pure ()
      return some (.directory children)
    | .file => return some (.file (.bytes (← IO.FS.readBinFile place.path).toList))
    | .symlink => return some (.link (← IO.FS.realPath place.path).toString)
    | .other => return none
  catch _ => return none

/-- Reads a place into a tree, unless something stands there already. -/
def addTo (tree : Entry FileContent) (loc : Location) : IO (Entry FileContent) := do
  if loc.isEmpty || (tree.at? loc).isSome then return tree
  match ← read? (placeOf loc) with
  | some entry => return Entry.put entry loc tree
  | none => return tree

/-- The places of the configuration files above a directory. -/
def configurationsAbove (loc : Location) : List Location :=
  (Config.upward loc).map (· ++ [Config.fileName])

/-- The places that arguments name. -/
def placesAmong (cwd : Location) (arguments : List String) : List Location :=
  arguments.flatMap fun argument =>
    ((Text.splitOn '=' argument.toList).map String.ofList).map fun part =>
      Entry.descend [] (((⟨.absolute, cwd⟩ : Path).append (Path.ofText part)).names.map .name)

end Disk

namespace CommandLine

/-- The name of the program. -/
def programName : String := "textguard"

/-- How deeply the values of a configuration file may be nested. -/
def configurationDepth : Nat := 970

/-- Where the linter's own extensions are in the tree. -/
def home : Family.Home := ⟨Path.ofText "/usr/lib/textguard"⟩

/-- The world that the program runs in. -/
def workspaceFor (arguments : List String) : IO Workspace := do
  let cwd := Disk.namesOf (← IO.currentDir).toString
  let mut tree := Entry.put Bundled.directory home.path.names (.directory [])
  for loc in cwd :: Disk.placesAmong cwd arguments ++ Disk.configurationsAbove cwd do
    tree ← Disk.addTo tree loc
  return { tree := tree, cwd := cwd, importPath := [], modules := [], executed := [], log := [] }

/-- A number of milliseconds as seconds with three decimals. -/
def secondsText (milliseconds : Nat) : String :=
  let digits := String.ofList (Nat.toDigits 10 (1000 + milliseconds % 1000))
  String.ofList (Nat.toDigits 10 (milliseconds / 1000)) ++ "." ++ (digits.drop 1).toString

/-- The status that the operating system is given. -/
def exitCode : Status → UInt32
  | .number code => (code % 256).toNat.toUInt32
  | .truth b => if b then 1 else 0

/-- Runs the program, prints what it says, and gives its status. -/
def perform (arguments : List String) : IO UInt32 := do
  let started ← IO.monoMsNow
  let workspace ← workspaceFor arguments
  let keepsColors ← (← IO.getStdout).isTty
  let (_, outcome) := run ⟨programName, keepsColors, configurationDepth⟩ home arguments workspace
  let elapsed := secondsText ((← IO.monoMsNow) - started)
  IO.print (String.ofList outcome.out)
  IO.eprint ((String.ofList outcome.err).replace "<time>" elapsed)
  match outcome.uncaught with
  | some failure =>
    IO.eprintln ("Error: " ++ String.ofList (failure.message?.getD "the run has failed".toList))
  | none => pure ()
  return exitCode outcome.status

end CommandLine

end ProseLinter

def main (arguments : List String) : IO UInt32 := ProseLinter.CommandLine.perform arguments
