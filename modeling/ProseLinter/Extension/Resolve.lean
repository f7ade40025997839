import ProseLinter.Extension.Find

/-!
# Extension/Resolve — from the name of an extension to its place

A name is tried as a file, as a file relative to the working directory, as a bundled extension, and
as a module on the import path; the first that exists decides.  Nothing is run.
-/

namespace ProseLinter

/-- How a name was understood. -/
inductive Strategy where
  | file
  | cwd
  | bundled
  | package
  deriving DecidableEq, Repr

namespace Strategy

def name : Strategy → String
  | file => "file"
  | cwd => "cwd"
  | bundled => "bundled"
  | package => "package"

end Strategy

/-- Where an extension is.  A module of the import path has a dotted name. -/
structure Resolved where
  name : String
  path : Path
  strategy : Strategy
  moduleName : Option String
  deriving DecidableEq, Repr

/-- What resolving a name gives. -/
inductive Resolution where
  | found (resolved : Resolved)
  | notFound (name : String)
  deriving DecidableEq, Repr

/-- Where to look for the extensions of a family: the directory of the bundled ones, what stands
before the name of a package, the working directory if it is another one, and the suffixes of the
bundled files, in source form and compiled. -/
structure Search where
  bundled : Path
  packagePrefix : String
  cwd : Option Path
  primarySuffix : String := Workspace.sourceSuffix
  compiledSuffix : String := Workspace.compiledSuffix
  deriving DecidableEq, Repr

namespace Search

/-- The bundled files that a name may stand for. -/
def bundledCandidates (s : Search) (name : String) : List Path :=
  [s.primarySuffix, s.compiledSuffix].map fun suffix =>
    s.bundled.append (.ofText (name ++ suffix))

/-- The modules that a name may stand for. -/
def moduleNames (s : Search) (name : String) : List String :=
  [ String.ofList ((s.packagePrefix ++ name).toList.map fun c => if c = '-' then '_' else c), name ]

end Search

namespace Workspace

/-- The logger of resolutions. -/
def resolverLogger : String := "textguard.extensions.resolver"

/-- The first bundled file of a name. -/
def bundledFile? (w : Workspace) (s : Search) (name : String) : Option Path :=
  (s.bundledCandidates name).find? fun p => p.parent == s.bundled && w.isFile p

/-- The first module of a name that has a file. -/
def moduleFile? (w : Workspace) (s : Search) (name : String) : Option (String × Path) :=
  (s.moduleNames name).findSome? fun m =>
    ((w.find m).bind (·.origin)).map fun origin => (m, origin)

/-- **Resolving a name.**  It fails only where the path below the working directory cannot be
resolved. -/
def resolve (w : Workspace) (s : Search) (name : String) : Except Failure Resolution :=
  if name = "" then .ok (.notFound name)
  else
    let given := Path.ofText name
    if w.isFile given then .ok (.found ⟨name, given, .file, none⟩)
    else
      match w.tree.resolve w.cwd ((s.cwd.getD w.cwdPath).append given) with
      | .error e => .error e
      | .ok below =>
        if w.isFile below then .ok (.found ⟨name, below, .cwd, none⟩)
        else
          match w.bundledFile? s name with
          | some p => .ok (.found ⟨name, p, .bundled, none⟩)
          | none =>
            match w.moduleFile? s name with
            | some (m, origin) => .ok (.found ⟨name, origin, .package, some m⟩)
            | none => .ok (.notFound name)

/-- What the log says of a resolution. -/
def resolutionText (w : Workspace) (s : Search) : Resolution → List Char
  | .notFound name => "Could not resolve ".toList ++ name.toList
  | .found r =>
    let opening := "Resolved ".toList ++ r.name.toList
    match r.strategy with
    | .file => opening ++ " as a file path".toList
    | .cwd => opening ++ " relative to ".toList ++ (s.cwd.getD w.cwdPath).chars
    | .bundled => opening ++ " to bundled ".toList ++ r.path.chars
    | .package =>
      opening ++ " to module ".toList ++ (r.moduleName.getD "").toList ++ " (".toList
        ++ r.path.chars ++ [')']

/-- The workspace with a resolution in its log; an empty name leaves no line. -/
def noteResolution (w : Workspace) (s : Search) (r : Resolution) : Workspace :=
  if r = .notFound "" then w else w.note .debug resolverLogger (w.resolutionText s r)

end Workspace

end ProseLinter
