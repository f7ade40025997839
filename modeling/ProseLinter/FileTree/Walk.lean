import ProseLinter.Failure
import ProseLinter.FileTree.Basic

/-!
# FileTree/Walk — following paths

Opening a path **walks** from name to name and follows every link on the way, up to a limit.
**Resolving** a path turns it into a location without links; names that do not exist are kept, and
double dots take away the name before them.
-/

namespace ProseLinter

namespace Entry

variable {α : Type}

/-- How many links one path may lead through. -/
def maxLinks : Nat := 40

/-- The longest name, in bytes. -/
def maxName : Nat := 255

/-- The names of a link's target; a slash at its end asks for a directory. -/
def targetNames (target : String) : List String :=
  Path.rawNames target.toList ++ (if target.toList.getLast? = some '/' then ["."] else [])

/-- Where a path leads: a location, what is there, and how many more links may be followed. -/
structure Place (α : Type) where
  location : Location
  entry : Entry α
  budget : Nat

/-- **Walking** along names from a location, through at most `budget` links. -/
def walk (tree : Entry α) (budget : Nat) (loc : Location) :
    List String → Except FileFault (Place α)
  | [] =>
    match tree.at? loc with
    | some e => .ok ⟨loc, e, budget⟩
    | none => .error .missing
  | name :: rest =>
    match tree.at? loc with
    | none => .error .missing
    | some (.directory children) =>
      if name = "." then tree.walk budget loc rest
      else if name = ".." then tree.walk budget loc.dropLast rest
      else if maxName < name.utf8ByteSize then .error .nameTooLong
      else
        match children.lookup name with
        | none => .error .missing
        | some (.link target) =>
          match budget with
          | 0 => .error .tooManyLinks
          | budget + 1 =>
            let start := if (Path.rootOf target.toList).isAbsolute then [] else loc
            tree.walk budget start (targetNames target ++ rest)
        | some _ => tree.walk budget (loc ++ [name]) rest
    | some _ => .error .notDirectory
termination_by names => (budget, names.length)

/-- The longest path, in bytes. -/
def maxPath : Nat := 4095

/-- Whether a text holds a null character, which no path of a file does. -/
def hasNull (p : Path) : Bool := p.names.any fun n => n.toList.contains '\x00'

/-- **Opening a path** from a working directory. -/
def openPath (tree : Entry α) (cwd : Location) (p : Path) : Except FileFault (Place α) :=
  if hasNull p then .error .nullCharacter
  else if maxPath < p.text.utf8ByteSize then .error .nameTooLong
  else tree.walk maxLinks (if p.isAbsolute then [] else cwd) p.names

/-- Whether there is a file at a path.  A name that is too long is a fault and not an answer. -/
def isFileAt? (tree : Entry α) (cwd : Location) (p : Path) : Except FileFault Bool :=
  match tree.openPath cwd p with
  | .ok place => .ok place.entry.isFile
  | .error .nameTooLong => .error .nameTooLong
  | .error _ => .ok false

/-- Whether there is a file at a path. -/
def isFileAt (tree : Entry α) (cwd : Location) (p : Path) : Bool :=
  match tree.openPath cwd p with
  | .ok place => place.entry.isFile
  | .error _ => false

/-- Whether there is anything at a path. -/
def exists? (tree : Entry α) (cwd : Location) (p : Path) : Except FileFault Bool :=
  match tree.openPath cwd p with
  | .ok _ => .ok true
  | .error .nullCharacter => .error .nullCharacter
  | .error _ => .ok false

/-- The content of the file at a path. -/
def read (tree : Entry α) (cwd : Location) (p : Path) : Except FileFault α :=
  match tree.openPath cwd p with
  | .ok ⟨_, .file content, _⟩ => .ok content
  | .ok _ => .error .isDirectory
  | .error e => .error e

/-! ## Resolving -/

/-- A step of resolving: a name, or the end of what a link stood for. -/
inductive Resolving where
  | name (name : String)
  | endOf (via : Location)
  deriving DecidableEq

/-- The links that have been met, with what they resolve to as far as it is known. -/
abbrev Known := List (Location × Option Location)

/-- A location with names below it, double dots taking away the name before them. -/
def descend (loc : Location) : List Resolving → Location
  | [] => loc
  | .endOf _ :: rest => descend loc rest
  | .name n :: rest =>
    if n = "." then descend loc rest
    else if n = ".." then descend loc.dropLast rest
    else descend (loc ++ [n]) rest

/-- **Resolving** steps from a location.  A link that is met while it is being resolved stays, with
everything after it. -/
def resolveFrom (tree : Entry α) (budget : Nat) (known : Known) (loc : Location) :
    List Resolving → Location
  | [] => loc
  | .endOf via :: rest => tree.resolveFrom budget ((via, some loc) :: known) loc rest
  | .name n :: rest =>
    if n = "." then tree.resolveFrom budget known loc rest
    else if n = ".." then tree.resolveFrom budget known loc.dropLast rest
    else
      match tree.isLinkAt (loc ++ [n]) with
      | none => tree.resolveFrom budget known (loc ++ [n]) rest
      | some target =>
        match known.lookup (loc ++ [n]) with
        | some (some resolved) => tree.resolveFrom budget known resolved rest
        | some none => descend (loc ++ [n]) rest
        | none =>
          match budget with
          | 0 => descend (loc ++ [n]) rest
          | budget + 1 =>
            let start := if (Path.rootOf target.toList).isAbsolute then [] else loc
            tree.resolveFrom budget ((loc ++ [n], none) :: known) start
              ((Path.rawNames target.toList).map .name ++ .endOf (loc ++ [n]) :: rest)
termination_by steps => (budget, steps.length)

/-- The location of a path without links, whether or not it exists. -/
def locate (tree : Entry α) (cwd : Location) (p : Path) : Location :=
  tree.resolveFrom tree.links [] (if p.isAbsolute then [] else cwd) (p.names.map .name)

/-- **The resolved path.**  It fails on a null character, and when links lead back to themselves. -/
def resolve (tree : Entry α) (cwd : Location) (p : Path) : Except Failure Path :=
  if hasNull p then .error (.value .badValue)
  else
    let resolved : Path := ⟨.absolute, tree.locate cwd p⟩
    match tree.openPath cwd resolved with
    | .error .tooManyLinks => .error .linkLoop
    | _ => .ok resolved

end Entry

end ProseLinter
