import ProseLinter.Extension.Workspace

/-!
# Extension/Find — finding modules on the import path

A directory of the path offers a name as a package, as a module, or as a plain directory.  Plain
directories of one name are merged, and count only where nothing else is found.  Finding a module
runs nothing.
-/

namespace ProseLinter

/-- Where a module is: the file that defines it, and the directories of its submodules. -/
structure Found where
  origin : Option Path
  locations : Option (List Path)
  deriving DecidableEq, Repr

namespace Workspace

/-- The suffix of programs in source form. -/
def sourceSuffix : String := ".py"

/-- The suffix of programs in compiled form. -/
def compiledSuffix : String := ".pyc"

/-- The file of a package without its suffix. -/
def packageFile : String := "__init__"

/-- What a directory offers under a name, apart from a plain directory. -/
def offer? (w : Workspace) (directory : Path) (name : String) : Option Found :=
  let package := directory.child name
  let candidates : List (Path × Option (List Path)) :=
    [ (package.child (packageFile ++ sourceSuffix), some [package]),
      (package.child (packageFile ++ compiledSuffix), some [package]),
      (directory.child (name ++ sourceSuffix), none),
      (directory.child (name ++ compiledSuffix), none) ]
  (candidates.find? fun c => w.isFile c.1).map fun c => ⟨some c.1, c.2⟩

/-- **Finding a name** in directories, the first offer first. -/
def findIn (w : Workspace) (directories : List Path) (name : String) : Option Found :=
  match directories.findSome? fun d => w.offer? d name with
  | some found => some found
  | none =>
    match (directories.map fun d => d.child name).filter w.isDirectory with
    | [] => none
    | plain => some ⟨none, some plain⟩

/-- The directories of the submodules of an imported module; a plain directory is looked up anew on
the import path. -/
def locationsOf (w : Workspace) (name : String) (m : ImportedModule) : Option (List Path) :=
  match m.origin, m.locations with
  | none, some old =>
    match w.findIn w.importPath name with
    | some ⟨none, some fresh⟩ => some fresh
    | _ => some old
  | _, locations => locations

/-- Where a module of the top level is: as it was imported, or else on the import path. -/
def findTop (w : Workspace) (name : String) : Option Found :=
  match w.modules.lookup name with
  | some m => some ⟨m.origin, w.locationsOf name m⟩
  | none => w.findIn w.importPath name

/-- Where a submodule is, name by name. -/
def findBelow (w : Workspace) : Option Found → List String → Option Found
  | found, [] => found
  | none, _ => none
  | some found, name :: rest =>
    match found.locations with
    | some directories => w.findBelow (w.findIn directories name) rest
    | none => none

/-- The parts of a dotted name. -/
def dottedParts (name : String) : List String :=
  (Text.splitOn '.' name.toList).map String.ofList

/-- **Where a module with a dotted name is.**  Every part has to be an identifier. -/
def find (w : Workspace) (name : String) : Option Found :=
  let parts := dottedParts name
  if parts.all fun part => Text.isIdentifier part.toList then
    match parts with
    | top :: rest => w.findBelow (w.findTop top) rest
    | [] => none
  else none

end Workspace

end ProseLinter
