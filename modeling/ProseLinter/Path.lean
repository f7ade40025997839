import ProseLinter.Text.Class

/-!
# Path — paths as lists of names

A path is a root and the names below it.  Reading a path drops empty names and single dots; double
dots stay, since a link may stand before them.
-/

namespace ProseLinter

/-- What a path starts from. -/
inductive Root where
  /-- The directory at hand. -/
  | relative
  | absolute
  /-- Exactly two slashes in front, which mean the same as one. -/
  | doubled
  deriving DecidableEq, Repr, Inhabited

namespace Root

/-- The slashes of a root. -/
def text : Root → List Char
  | relative => []
  | absolute => ['/']
  | doubled => ['/', '/']

def isAbsolute : Root → Bool
  | relative => false
  | _ => true

end Root

/-- **A path**: a root and names. -/
structure Path where
  root : Root
  names : List String
  deriving DecidableEq, Repr, Inhabited

namespace Path

/-- The slashes at the front of a text. -/
def rootOf : List Char → Root
  | '/' :: '/' :: '/' :: _ => .absolute
  | '/' :: '/' :: _ => .doubled
  | '/' :: _ => .absolute
  | _ => .relative

/-- The names of a text between slashes, as they stand. -/
def rawNames (cs : List Char) : List String :=
  ((Text.splitOn '/' cs).filter fun n => !n.isEmpty).map String.ofList

/-- **Reading a path.** -/
def ofChars (cs : List Char) : Path := ⟨rootOf cs, (rawNames cs).filter (· ≠ ".")⟩

def ofText (s : String) : Path := ofChars s.toList

/-- A path as text; the empty path is a dot. -/
def chars (p : Path) : List Char :=
  if p.root = .relative ∧ p.names = [] then ['.']
  else p.root.text ++ Text.join ['/'] (p.names.map String.toList)

def text (p : Path) : String := String.ofList p.chars

/-- The path without names below the root `/`. -/
def top : Path := ⟨.absolute, []⟩

def isAbsolute (p : Path) : Bool := p.root.isAbsolute

/-- A path below another one; an absolute path stands for itself. -/
def append (p q : Path) : Path := if q.isAbsolute then q else ⟨p.root, p.names ++ q.names⟩

/-- A path with one more name. -/
def child (p : Path) (name : String) : Path := ⟨p.root, p.names ++ [name]⟩

/-- A path with more names. -/
def below (p : Path) (names : List String) : Path := ⟨p.root, p.names ++ names⟩

/-- The path above; a path without names is its own parent. -/
def parent (p : Path) : Path := ⟨p.root, p.names.dropLast⟩

/-- The last name, empty if there is none. -/
def name (p : Path) : String := p.names.getLast?.getD ""

/-- A name cut at its last dot, if there is something on both sides of it. -/
def splitSuffix (name : String) : String × String :=
  let cs := name.toList
  let after := (cs.reverse.takeWhile (· ≠ '.')).reverse
  let stem := cs.take (cs.length - after.length - 1)
  if after.length = cs.length ∨ after = [] ∨ stem = [] then (name, "")
  else (String.ofList stem, String.ofList ('.' :: after))

/-- The last name without its suffix. -/
def stem (p : Path) : String := (splitSuffix p.name).1

/-- The suffix of the last name, with its dot. -/
def suffix (p : Path) : String := (splitSuffix p.name).2

/-- The names that follow `front`, if a list of names starts with it. -/
def namesAfter? : List String → List String → Option (List String)
  | [], names => some names
  | _ :: _, [] => none
  | f :: front, n :: names => if f = n then namesAfter? front names else none

/-- **The path relative to another one**, if it lies there or below. -/
def relativeTo? (p base : Path) : Option Path :=
  if p.root = base.root then (namesAfter? base.names p.names).map fun names => ⟨.relative, names⟩
  else none

theorem namesAfter?_append (front names : List String) :
    namesAfter? front (front ++ names) = some names := by
  induction front with
  | nil => rfl
  | cons f front ih => simp [namesAfter?, ih]

theorem eq_append_of_namesAfter? {front names rest : List String}
    (h : namesAfter? front names = some rest) : names = front ++ rest := by
  induction front generalizing names with
  | nil => simpa [namesAfter?] using h
  | cons f front ih =>
    cases names with
    | nil => simp [namesAfter?] at h
    | cons n names =>
      simp only [namesAfter?] at h
      split at h
      · next he => rw [he, List.cons_append, ih h]
      · cases h

/-- **The order of paths**: by root, then name by name. -/
def before (p q : Path) : Bool :=
  if p.root = q.root then decide (p.names < q.names) else decide (p.root.text < q.root.text)

end Path

end ProseLinter
