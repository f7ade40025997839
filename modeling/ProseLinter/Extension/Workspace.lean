import ProseLinter.Extension.Export
import ProseLinter.FileTree.Walk
import ProseLinter.Text.Utf8

/-!
# Extension/Workspace — the world that extensions live in

A file tree with programs in it, the working directory, the import path, the modules that have been
imported, and a record of the bodies that have run.
-/

namespace ProseLinter

/-- What running a module does: it may raise, and else it defines its exports. -/
structure Program where
  /-- The name under which a run is recorded. -/
  label : Option String
  /-- Whether the source is a program at all. -/
  isValid : Bool
  raises : Option Raised
  exports : List (String × Export)
  deriving Inhabited

/-- The program that does nothing. -/
def Program.idle : Program := ⟨none, true, none, []⟩

/-- The program that raises an exception and does nothing else. -/
def Program.raising (exception : Raised) : Program := ⟨none, true, some exception, []⟩

/-- The content of a file: bytes, or a program as source or in compiled form. -/
inductive FileContent where
  | bytes (data : List UInt8)
  | source (program : Program)
  | compiled (program : Program)
  deriving Inhabited

namespace FileContent

/-- The bytes of a file; those of a program are of no concern to the linter. -/
def toBytes : FileContent → List UInt8
  | bytes data => data
  | _ => []

end FileContent

/-- A module that has been imported.  A package has locations for its submodules; a module without
an origin is a plain directory. -/
structure ImportedModule where
  origin : Option Path
  locations : Option (List Path)
  exports : List (String × Export)
  deriving Inhabited

/-- A body that has run: the module that it ran for, its file, the name under which its program is
recorded, and whether it came to its end. -/
structure Execution where
  moduleName : String
  path : Path
  label : Option String
  completed : Bool
  deriving DecidableEq, Repr

/-- How much a line of the log matters. -/
inductive LogLevel where
  | info
  | debug
  deriving DecidableEq, Repr

/-- A line of the log. -/
structure LogLine where
  level : LogLevel
  logger : String
  text : List Char
  deriving Repr

/-- **The world of extensions.** -/
structure Workspace where
  tree : Entry FileContent
  cwd : Location
  importPath : List Path
  modules : List (String × ImportedModule)
  /-- The bodies that have run, in order. -/
  executed : List Execution
  log : List LogLine
  deriving Inhabited

namespace Workspace

/-- The working directory as a path. -/
def cwdPath (w : Workspace) : Path := ⟨.absolute, w.cwd⟩

/-- Whether there is a file at a path. -/
def isFile (w : Workspace) (p : Path) : Bool := w.tree.isFileAt w.cwd p

/-- Whether there is a directory at a path. -/
def isDirectory (w : Workspace) (p : Path) : Bool :=
  match w.tree.openPath w.cwd p with
  | .ok place => place.entry.isDirectory
  | .error _ => false

def note (w : Workspace) (level : LogLevel) (logger : String) (text : List Char) : Workspace :=
  { w with log := w.log ++ [⟨level, logger, text⟩] }

end Workspace

end ProseLinter
