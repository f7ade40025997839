import ProseLinter.FileTree.Walk

/-!
# FileTree/Edit — changing a file tree

Files are written through the links that lead to them; directories and links are made only where
nothing stands yet.  Nothing but files and links is taken away.
-/

namespace ProseLinter.Entry

variable {α : Type}

/-- The place in a directory that a path names, without following a link at its end: the location of
the directory, and the name. -/
def slotAt (tree : Entry α) (cwd : Location) (p : Path) : Except FileFault (Location × String) :=
  if hasNull p then .error .nullCharacter
  else
    match p.names.getLast? with
    | none => .error .isDirectory
    | some name =>
      match tree.openPath cwd p.parent with
      | .error fault => .error fault
      | .ok ⟨loc, .directory _, _⟩ =>
        if name = ".." then .error .isDirectory
        else if maxName < name.utf8ByteSize then .error .nameTooLong
        else .ok (loc, name)
      | .ok _ => .error .notDirectory

/-- Puts an entry at a path where nothing stands yet, not even a link. -/
def add (tree : Entry α) (cwd : Location) (new : Entry α) (p : Path) :
    Except FileFault (Entry α) :=
  match tree.slotAt cwd p with
  | .error .isDirectory => .error .taken
  | .error fault => .error fault
  | .ok (loc, name) =>
    match tree.at? (loc ++ [name]) with
    | some _ => .error .taken
    | none => .ok (put new (loc ++ [name]) tree)

/-- Whether a path leads to a directory. -/
def isDirectoryAt (tree : Entry α) (cwd : Location) (p : Path) : Bool :=
  match tree.openPath cwd p with
  | .ok place => place.entry.isDirectory
  | .error _ => false

/-- A directory at a path, which may stand there already. -/
def addDirectory (tree : Entry α) (cwd : Location) (p : Path) : Except FileFault (Entry α) :=
  match tree.add cwd (directory []) p with
  | .ok tree => .ok tree
  | .error fault => if tree.isDirectoryAt cwd p then .ok tree else .error fault

/-- **A directory at a path** with the directories above it, as far as they are missing.  The names
of the path are given from the last one to the first. -/
def addDirectories (tree : Entry α) (cwd : Location) (root : Root) :
    List String → Except FileFault (Entry α)
  | [] => tree.addDirectory cwd ⟨root, []⟩
  | name :: above =>
    let p : Path := ⟨root, (name :: above).reverse⟩
    match tree.add cwd (directory []) p with
    | .ok tree => .ok tree
    | .error .missing =>
      match addDirectories tree cwd root above with
      | .ok tree => tree.addDirectory cwd p
      | .error fault => .error fault
    | .error fault => if tree.isDirectoryAt cwd p then .ok tree else .error fault

/-- The location at which a file is written along names: its own, or that to which links lead. -/
def writtenAt (tree : Entry α) (budget : Nat) (loc : Location) :
    List String → Except FileFault Location
  | [] => .ok loc
  | name :: rest =>
    match tree.at? loc with
    | none => .error .missing
    | some (.directory children) =>
      if name = "." then tree.writtenAt budget loc rest
      else if name = ".." then tree.writtenAt budget loc.dropLast rest
      else if maxName < name.utf8ByteSize then .error .nameTooLong
      else
        match children.lookup name with
        | none =>
          if rest.isEmpty then .ok (loc ++ [name])
          else if rest = ["."] then .error .isDirectory
          else .error .missing
        | some (.link target) =>
          match budget with
          | 0 => .error .tooManyLinks
          | budget + 1 =>
            let start := if (Path.rootOf target.toList).isAbsolute then [] else loc
            tree.writtenAt budget start (targetNames target ++ rest)
        | some _ => tree.writtenAt budget (loc ++ [name]) rest
    | some _ => .error .notDirectory
termination_by names => (budget, names.length)

/-- **Writing a file** at a path, in place of the one that stands there. -/
def write (tree : Entry α) (cwd : Location) (content : α) (p : Path) :
    Except FileFault (Entry α) :=
  if hasNull p then .error .nullCharacter
  else if maxPath < p.text.utf8ByteSize then .error .nameTooLong
  else
    match tree.writtenAt maxLinks (if p.isAbsolute then [] else cwd) p.names with
    | .error fault => .error fault
    | .ok loc =>
      match tree.at? loc with
      | some (.directory _) => .error .isDirectory
      | _ => .ok (put (file content) loc tree)

/-- **Setting an entry** at a path, below directories that are made where they are missing. -/
def set (tree : Entry α) (cwd : Location) (new : Entry α) (p : Path) :
    Except FileFault (Entry α) :=
  match tree.addDirectories cwd p.root p.names.dropLast.reverse with
  | .error fault => .error fault
  | .ok tree =>
    match new with
    | file content => tree.write cwd content p
    | directory _ => tree.addDirectory cwd p
    | link _ => tree.add cwd new p

/-- **Taking away** the file or the link at a path. -/
def unset (tree : Entry α) (cwd : Location) (p : Path) : Except FileFault (Entry α) :=
  match tree.slotAt cwd p with
  | .error fault => .error fault
  | .ok (loc, name) =>
    match tree.at? (loc ++ [name]) with
    | none => .error .missing
    | some (directory _) => .error .isDirectory
    | some _ => .ok (remove (loc ++ [name]) tree)

/-- **Entering the directory** at a path: its location. -/
def enter (tree : Entry α) (cwd : Location) (p : Path) : Except FileFault Location :=
  match tree.openPath cwd p with
  | .ok ⟨loc, .directory _, _⟩ => .ok loc
  | .ok _ => .error .notDirectory
  | .error fault => .error fault

end ProseLinter.Entry
