import ProseLinter.FileTree.Walk

/-!
# FileTree/Collect — all files below a place

The **entries** of an entry are all that lies at or below it.  The files below a place are the files
among its entries, and the files below the places to which its links lead.
-/

namespace ProseLinter.Entry

variable {α : Type}

mutual
/-- **All that lies at or below an entry**, with the names that lead to it. -/
def entries : Entry α → List (List String × Entry α)
  | file content => [([], file content)]
  | link target => [([], link target)]
  | directory cs => ([], directory cs) :: entriesOf cs
def entriesOf : List (String × Entry α) → List (List String × Entry α)
  | [] => []
  | (name, e) :: rest => e.entries.map (fun below => (name :: below.1, below.2)) ++ entriesOf rest
end

/-- The files of one of the entries at a place: the file that it is, or those to which it leads as a
link.  A name that is too long in the target of a link is a fault; other links that lead nowhere are
passed over. -/
def filesOfEntry (tree : Entry α) (follow : Path → Place α → Except FileFault (List Path))
    (p : Path) (place : Place α) : List String × Entry α → Except FileFault (List Path)
  | (names, file _) => .ok [p.below names]
  | (_, directory _) => .ok []
  | (names, link _) =>
    match tree.walk place.budget place.location names with
    | .ok next => follow (p.below names) next
    | .error .nameTooLong => .error .nameTooLong
    | .error _ => .ok []

/-- The files of all entries at a place.  A path that is too long is a fault. -/
def filesOf (tree : Entry α) (follow : Path → Place α → Except FileFault (List Path))
    (p : Path) (place : Place α) : Except FileFault (List Path) :=
  match place.entry.entries.find? fun below => maxPath < (p.below below.1).text.utf8ByteSize with
  | some _ => .error .nameTooLong
  | none => return (← place.entry.entries.mapM (tree.filesOfEntry follow p place)).flatten

/-- **The files below a place** to which a path leads, as paths that start with it.  `depth` bounds
the links that are followed one after the other. -/
def filesBelow (tree : Entry α) : (depth : Nat) → Path → Place α → Except FileFault (List Path)
  | 0 => tree.filesOf fun _ _ => .ok []
  | depth + 1 => tree.filesOf (tree.filesBelow depth)

/-- The files at a path or below it, as paths that start with it. -/
def filesAt (tree : Entry α) (cwd : Location) (p : Path) : Except FileFault (List Path) :=
  match tree.openPath cwd p with
  | .ok place => tree.filesBelow maxLinks p place
  | .error .nameTooLong => .error .nameTooLong
  | .error _ => .ok []

end ProseLinter.Entry
