import ProseLinter.Digest
import ProseLinter.Extension.Compiled
import ProseLinter.Extension.Resolve
import ProseLinter.Extension.Source

/-!
# Extension/Load — running extensions

A file is run each time it is loaded.  A module of the import path is run once, after its parent
packages.  Both are known by name while there is no failure; a body that raises leaves no trace but
the record that it ran.
-/

namespace ProseLinter

/-- An extension reduced to its callable. -/
structure Extension where
  name : String
  path : Path
  function : Callable
  deriving Repr

namespace Workspace

/-- How the content of a file is turned into a module. -/
inductive Loader where
  | source
  | compiled
  /-- Machine code, which no file here holds. -/
  | native
  deriving DecidableEq, Repr

/-- Whether a text ends in another one. -/
def endsWith (s suffix : String) : Bool := suffix.toList.isSuffixOf s.toList

/-- The loader that a file's name asks for; a name without a known suffix is source. -/
def loaderOf (path : Path) : Loader :=
  if endsWith path.name ".so" then .native
  else if endsWith path.name compiledSuffix then .compiled
  else .source

/-- **The program in the content** of the file at a path, which is to become a module. -/
def programOf (path : Path) (moduleName : String) (content : FileContent) :
    Except LoadCause Program :=
  match loaderOf path, content with
  | .source, .source p => if p.isValid then .ok p else .error .notSource
  | .compiled, .compiled p => if p.isValid then .ok p else .error .notSource
  | .source, .compiled _ => .error .nullCharacter
  | .source, .bytes data =>
    if data.contains 0 then .error .nullCharacter
    else
      match Source.program? data with
      | some p => .ok p
      | none => .error .notSource
  | .compiled, .source _ => .error (.compiled path.text moduleName (.wrongMark []))
  | .compiled, .bytes data => .error (.compiled path.text moduleName (Compiled.faultOf data))
  | .native, _ => .error (.notNative path.text)

/-- The program in the file at a path, if it compiles. -/
def programAt (w : Workspace) (path : Path) (moduleName : String) : Except LoadCause Program :=
  if loaderOf path = .native then .error (.notNative path.text)
  else
    match w.tree.read w.cwd path with
    | .ok content => programOf path moduleName content
    | .error fault => .error (.unreadable path.text fault)

/-- **Running a program**: the run is recorded, then it raises or gives its exports. -/
def runProgram (w : Workspace) (path : Path) (moduleName : String) (p : Program) :
    Workspace × Except LoadCause (List (String × Export)) :=
  ({ w with executed := w.executed ++ [⟨moduleName, path, p.label, p.raises.isNone⟩] },
    match p.raises with
    | some exception => .error (.raised exception)
    | none => .ok p.exports)

/-- Running the file at a path. -/
def runFile (w : Workspace) (path : Path) (moduleName : String) :
    Workspace × Except LoadCause (List (String × Export)) :=
  match w.programAt path moduleName with
  | .ok p => w.runProgram path moduleName p
  | .error cause => (w, .error cause)

/-- How many digits of the digest a module's name has. -/
def digestLength : Nat := 12

/-- **The name of a module that is loaded from a file**: the stem of the file and a digest of its
path. -/
def fileModuleName (path : Path) : String :=
  let stem := path.stem.toList.map fun c => if c = '-' then '_' else c
  let digest := (Digest.hex (Text.encode path.chars)).take digestLength
  String.ofList ("_textguard_ext_".toList ++ stem ++ '_' :: digest)

/-- A name without its last dot and what follows it. -/
def beforeLastDot (name : String) : String :=
  match name.toList.reverse.dropWhile (· ≠ '.') with
  | _ :: front => String.ofList front.reverse
  | [] => name

/-- The directories of the submodules of a module that is loaded from a file: there are some if the
file is called like that of a package. -/
def fileLocations (path : Path) : Option (List Path) :=
  if beforeLastDot path.name = packageFile then some [path.parent] else none

/-- The workspace without a module. -/
def forget (w : Workspace) (name : String) : Workspace :=
  { w with modules := w.modules.filter (·.1 != name) }

/-- **The module in a file.**  It is known by its own name afterwards, unless it fails. -/
def loadFile (w : Workspace) (path : Path) : Workspace × Except LoadCause Export :=
  match w.tree.resolve w.cwd path with
  | .error .linkLoop => (w, .error (.linkLoop (Path.text ⟨.absolute, w.tree.locate w.cwd path⟩)))
  | .error _ => (w, .error .nullInPath)
  | .ok resolved =>
    let name := fileModuleName resolved
    match w.runFile resolved name with
    | (w, .ok exports) =>
      let m : ImportedModule := ⟨some resolved, fileLocations resolved, exports⟩
      ({ w with modules := insertEntry name m w.modules }, .ok (.module name exports))
    | (w, .error cause) =>
      (if loaderOf resolved = .native then w else w.forget name, .error cause)

/-! ## Importing -/

/-- A dotted name. -/
def dotted (parts : List String) : String :=
  String.ofList (Text.join ['.'] (parts.map String.toList))

/-- Records an imported module, also as an attribute of its parent. -/
def addModule (w : Workspace) (parent : List String) (part : String) (m : ImportedModule) :
    Workspace :=
  let name := dotted (parent ++ [part])
  let modules := insertEntry name m w.modules
  let modules :=
    match modules.lookup (dotted parent) with
    | some p =>
      if parent = [] then modules
      else
        insertEntry (dotted parent)
          { p with exports := insertEntry part (.module name m.exports) p.exports } modules
    | none => modules
  { w with modules := modules }

/-- Where the next part of a dotted name is to be looked for. -/
def searchPath (w : Workspace) : List String → Option (List Path)
  | [] => some w.importPath
  | parent =>
    match w.modules.lookup (dotted parent) with
    | some m => if parent.length = 1 then w.locationsOf (dotted parent) m else m.locations
    | none => none

/-- **Importing the next part** of a dotted name whose front is imported. -/
def importPart (w : Workspace) (parent : List String) (part : String) :
    Workspace × Except LoadCause Unit :=
  match w.modules.lookup (dotted (parent ++ [part])) with
  | some _ => (w, .ok ())
  | none =>
    match (w.searchPath parent).bind fun directories => w.findIn directories part with
    | none => (w, .error (.missingModule (dotted (parent ++ [part]))))
    | some found =>
      match found.origin with
      | none => (w.addModule parent part ⟨none, found.locations, []⟩, .ok ())
      | some origin =>
        match w.runFile origin (dotted (parent ++ [part])) with
        | (w, .ok exports) =>
          (w.addModule parent part ⟨some origin, found.locations, exports⟩, .ok ())
        | (w, .error cause) => (w, .error cause)

/-- **Importing** along a dotted name, whose parts are given from the last one to the first: the
parent comes before the last part, and nothing is done for a name that is imported. -/
def importUp (w : Workspace) : List String → Workspace × Except LoadCause Unit
  | [] => (w, .ok ())
  | part :: above =>
    match w.modules.lookup (dotted (part :: above).reverse) with
    | some _ => (w, .ok ())
    | none =>
      match w.importUp above with
      | (w, .ok ()) => w.importPart above.reverse part
      | (w, .error cause) => (w, .error cause)

/-- **Importing a module.** -/
def importModule (w : Workspace) (name : String) : Workspace × Except LoadCause Export :=
  match name.toList with
  | [] => (w, .error .unnamedModule)
  | '.' :: _ => (w, .error (.relativeModule name))
  | _ =>
    match w.importUp (dottedParts name).reverse with
    | (w, .error cause) => (w, .error cause)
    | (w, .ok ()) =>
      match w.modules.lookup name with
      | some m => (w, .ok (.module name m.exports))
      | none => (w, .error (.missingModule name))

/-! ## Loading -/

/-- The exceptions that end the program and are no failure of an extension. -/
def escapingKinds : List String := ["KeyboardInterrupt", "GeneratorExit", "BaseException"]

/-- A cause as the failure of loading an extension. -/
def failureOf (name : String) : LoadCause → Failure
  | .raised exception =>
    if escapingKinds.contains exception.kind then .raised exception
    else (LoadFailure.ofCause name (.raised exception)).failure
  | cause => (LoadFailure.ofCause name cause).failure

/-- The module of a resolution. -/
def exportsOf (w : Workspace) (r : Resolved) : Workspace × Except LoadCause Export :=
  match r.moduleName with
  | some name => w.importModule name
  | none => w.loadFile r.path

/-- **Loading an extension**: its module is run or imported, and its callable is picked. -/
def load (w : Workspace) (member : String) : Resolution → Workspace × Except Failure Extension
  | .notFound name => (w, .error (failureOf name (.unresolved name)))
  | .found r =>
    match w.exportsOf r with
    | (w, .error cause) => (w, .error (failureOf r.name cause))
    | (w, .ok e) =>
      match e.normalize member with
      | .ok c => (w, .ok ⟨r.name, r.path, c⟩)
      | .error cause => (w, .error (failureOf r.name cause))

/-- The logger of loads. -/
def loaderLogger : String := "textguard.extensions.loader"

/-- The workspace with the start of a load in its log. -/
def noteLoading (w : Workspace) : Resolution → Workspace
  | .notFound _ => w
  | .found r =>
    w.note .debug loaderLogger
      ("Loading ".toList ++ r.name.toList ++ " from ".toList ++ r.path.chars)

end Workspace

end ProseLinter
