import ProseLinter.Path

/-!
# FileTree/Basic — directories, files and links

A file tree is a value: directories with named entries, files with contents of any type, and links
that hold the text of a path.  A **location** is a list of names from the top of the tree.
-/

namespace ProseLinter

/-- An entry of a file tree whose files hold contents of type `α`. -/
inductive Entry (α : Type) where
  | file (content : α)
  | directory (children : List (String × Entry α))
  | link (target : String)
  deriving Inhabited

/-- A list of names from the top of a tree. -/
abbrev Location := List String

namespace Entry

variable {α : Type}

def isFile : Entry α → Bool
  | file _ => true
  | _ => false

def isDirectory : Entry α → Bool
  | directory _ => true
  | _ => false

/-- The entries of a directory; other entries have none. -/
def children : Entry α → List (String × Entry α)
  | directory cs => cs
  | _ => []

/-- **The entry at a location**, without following links. -/
def at? (tree : Entry α) : Location → Option (Entry α)
  | [] => some tree
  | name :: rest =>
    match tree.children.lookup name with
    | some child => child.at? rest
    | none => none

@[simp] theorem at?_nil (tree : Entry α) : tree.at? [] = some tree := by
  unfold at?; rfl

/-- What stands at a location's end is a link. -/
def isLinkAt (tree : Entry α) (loc : Location) : Option String :=
  match tree.at? loc with
  | some (link target) => some target
  | _ => none

/-- Puts an entry at a location; the directories on the way are made where they are missing. -/
def put (new : Entry α) : Location → Entry α → Entry α
  | [], _ => new
  | name :: rest, tree =>
    let old := (tree.children.lookup name).getD (directory [])
    let child := put new rest old
    let children := tree.children
    if children.any (·.1 == name) then
      directory (children.map fun c => if c.1 = name then (name, child) else c)
    else directory (children ++ [(name, child)])

/-- Takes away the entry at a location. -/
def remove : Location → Entry α → Entry α
  | [], tree => tree
  | [name], tree => directory (tree.children.filter (·.1 != name))
  | name :: rest, tree =>
    directory (tree.children.map fun c => if c.1 = name then (name, c.2.remove rest) else c)

mutual
/-- The number of links in a tree. -/
def links : Entry α → Nat
  | file _ => 0
  | link _ => 1
  | directory cs => linksOf cs
def linksOf : List (String × Entry α) → Nat
  | [] => 0
  | (_, e) :: rest => e.links + linksOf rest
end

end Entry

end ProseLinter
