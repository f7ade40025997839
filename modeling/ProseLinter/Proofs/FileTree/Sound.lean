import Mathlib
import ProseLinter.FileTree.Collect

/-!
# Proofs/FileTree/Sound — what stands at a location

In a **sound** tree the names in each directory are names of files, and no name stands twice.  There
the entries below an entry are what its locations lead to (`mem_entries_iff`).

Opening a path refuses it or walks along its names (`openPath_cases`), and walking goes on by what
stands where it has come to.  So a path without links is opened at its own location
(`openPath_location`).
-/

namespace ProseLinter

namespace Entry

variable {α : Type} {tree e : Entry α} {cs : List (String × Entry α)} {name : String}
  {loc names : Location}

/-- **A name in a directory** is neither empty nor made of dots alone, holds no slash and no null
character, and is not too long. -/
def isName (name : String) : Bool :=
  name ≠ "" && name ≠ "." && name ≠ ".." && '/' ∉ name.toList && '\x00' ∉ name.toList
    && name.utf8ByteSize ≤ maxName

mutual
/-- **A sound entry**: each directory at or below it has names, each of them once. -/
def isSound : Entry α → Bool
  | directory cs => (cs.map (·.1)).all isName && (cs.map (·.1)).Nodup && areSound cs
  | _ => true
def areSound : List (String × Entry α) → Bool
  | [] => true
  | (_, e) :: rest => e.isSound && areSound rest
end

def isLink : Entry α → Bool
  | link _ => true
  | _ => false

@[simp] theorem isFile_file (content : α) : (file content).isFile = true := rfl

@[simp] theorem isFile_directory (cs : List (String × Entry α)) : (directory cs).isFile = false :=
  rfl

/-- **Standing in a tree**: the tree is sound, and the location is that of a directory. -/
structure Stands (tree : Entry α) (cwd : Location) : Prop where
  isSound : tree.isSound = true
  directory : ∃ cs, tree.at? cwd = some (.directory cs)

/-! ## Names -/

theorem isSound_of_mem (h : areSound cs = true) : ∀ c ∈ cs, c.2.isSound = true := by
  induction cs with
  | nil => simp
  | cons c cs ih =>
    obtain ⟨hc, hcs⟩ := Bool.and_eq_true_iff.mp h
    exact List.forall_mem_cons.mpr ⟨hc, ih hcs⟩

theorem isSound_directory (h : (directory cs).isSound = true) :
    (∀ c ∈ cs, isName c.1 = true) ∧ (cs.map (·.1)).Nodup ∧ ∀ c ∈ cs, c.2.isSound = true := by
  rw [isSound, Bool.and_eq_true, Bool.and_eq_true, decide_eq_true_eq, List.all_map,
    List.all_eq_true] at h
  exact ⟨h.1.1, h.1.2, isSound_of_mem h.2⟩

theorem isName_iff : isName name = true ↔ name ≠ "" ∧ name ≠ "." ∧ name ≠ ".." ∧
    '/' ∉ name.toList ∧ '\x00' ∉ name.toList ∧ name.utf8ByteSize ≤ maxName := by
  simp [isName, and_assoc]

/-! ## What stands at a location -/

theorem mem_of_lookup {β : Type} {l : List (String × β)} {b : β} (h : l.lookup name = some b) :
    (name, b) ∈ l := by
  obtain ⟨front, rest, rfl, -⟩ := List.lookup_eq_some_iff.mp h
  exact List.mem_append_right _ List.mem_cons_self

/-- Where no name stands twice, each entry is found under its name. -/
theorem lookup_eq_some_iff_mem {β : Type} {l : List (String × β)} {b : β}
    (h : (l.map (·.1)).Nodup) : l.lookup name = some b ↔ (name, b) ∈ l := by
  refine ⟨mem_of_lookup, fun hmem => ?_⟩
  obtain ⟨front, rest, rfl⟩ := List.append_of_mem hmem
  rw [List.map_append, List.map_cons] at h
  have hfront := List.disjoint_of_nodup_append h
  refine List.lookup_eq_some_iff.mpr ⟨front, rest, rfl, fun c hc => ?_⟩
  rw [bne_iff_ne]
  rintro rfl
  exact hfront (List.mem_map_of_mem hc) List.mem_cons_self

theorem at?_cons (tree : Entry α) (name : String) (names : Location) :
    tree.at? (name :: names) = (tree.children.lookup name).bind (·.at? names) := by
  rw [at?]
  cases tree.children.lookup name <;> rfl

theorem at?_append (tree : Entry α) (loc names : Location) :
    tree.at? (loc ++ names) = (tree.at? loc).bind (·.at? names) := by
  induction loc generalizing tree with
  | nil => rw [List.nil_append, at?_nil, Option.bind_some]
  | cons name loc ih =>
    rw [List.cons_append, at?_cons, at?_cons]
    cases tree.children.lookup name with
    | none => rfl
    | some child => exact ih child

/-- What stands below a directory stands below one of its entries. -/
theorem at?_below (h : tree.at? loc = some (directory cs)) (name : String) (names : Location) :
    tree.at? (loc ++ name :: names) = (cs.lookup name).bind (·.at? names) := by
  rw [at?_append, h, Option.bind_some, at?_cons, children]

/-- Only a directory has anything below it. -/
theorem at?_cons_eq_some_iff : tree.at? (name :: names) = some e ↔
    ∃ cs child, tree = directory cs ∧ cs.lookup name = some child ∧ child.at? names = some e := by
  rw [at?_cons, Option.bind_eq_some_iff]
  cases tree <;> simp [children]

/-- A link has nothing below it but itself. -/
theorem isLink_of_at? {target : String} (h : (link target).at? names = some e) :
    e.isLink = true := by
  cases names with
  | nil => rw [← Option.some.inj ((at?_nil _).symm.trans h), isLink]
  | cons name names => simp [at?_cons_eq_some_iff] at h

/-- Everything in a sound tree is sound, and has names. -/
theorem isSound_of_at? (hsound : tree.isSound = true) (h : tree.at? loc = some e) :
    e.isSound = true ∧ ∀ name ∈ loc, isName name = true := by
  induction loc generalizing tree with
  | nil =>
    obtain rfl := Option.some.inj ((at?_nil tree).symm.trans h)
    exact ⟨hsound, by simp⟩
  | cons name loc ih =>
    obtain ⟨cs, child, rfl, hlookup, hchild⟩ := at?_cons_eq_some_iff.mp h
    obtain ⟨hnames, -, hsounds⟩ := isSound_directory hsound
    have hmem := mem_of_lookup hlookup
    obtain ⟨he, hloc⟩ := ih (hsounds _ hmem) hchild
    exact ⟨he, List.forall_mem_cons.mpr ⟨hnames _ hmem, hloc⟩⟩

/-! ## The entries of an entry -/

theorem entriesOf_eq_flatMap (cs : List (String × Entry α)) :
    entriesOf cs =
      cs.flatMap fun c => c.2.entries.map fun below => (c.1 :: below.1, below.2) := by
  induction cs with
  | nil => rfl
  | cons c cs ih => rw [entriesOf, List.flatMap_cons, ih]

theorem mem_entries_cons_iff : (name :: names, e) ∈ tree.entries ↔
    ∃ cs child, tree = directory cs ∧ (name, child) ∈ cs ∧ (names, e) ∈ child.entries := by
  cases tree with
  | file content => simp [entries]
  | link target => simp [entries]
  | directory cs => simp [entries, entriesOf_eq_flatMap, and_assoc]

theorem mem_entries_nil_iff : ([], e) ∈ tree.entries ↔ tree = e := by
  cases tree <;> simp [entries, entriesOf_eq_flatMap, eq_comm]

/-- What stands at a location is among the entries… -/
theorem mem_entries_of_at? (h : tree.at? names = some e) : (names, e) ∈ tree.entries := by
  induction names generalizing tree with
  | nil => exact mem_entries_nil_iff.mpr (Option.some.inj ((at?_nil tree).symm.trans h))
  | cons name names ih =>
    obtain ⟨cs, child, rfl, hlookup, hchild⟩ := at?_cons_eq_some_iff.mp h
    exact mem_entries_cons_iff.mpr ⟨cs, child, rfl, mem_of_lookup hlookup, ih hchild⟩

/-- …and in a sound tree nothing else is. -/
theorem mem_entries_iff (hsound : tree.isSound = true) :
    (names, e) ∈ tree.entries ↔ tree.at? names = some e := by
  refine ⟨fun h => ?_, mem_entries_of_at?⟩
  induction names generalizing tree with
  | nil => rw [at?_nil, mem_entries_nil_iff.mp h]
  | cons name names ih =>
    obtain ⟨cs, child, rfl, hmem, hchild⟩ := mem_entries_cons_iff.mp h
    obtain ⟨-, hnodup, hsounds⟩ := isSound_directory hsound
    exact at?_cons_eq_some_iff.mpr
      ⟨cs, child, rfl, (lookup_eq_some_iff_mem hnodup).mpr hmem, ih (hsounds _ hmem) hchild⟩

/-! ## Walking, name by name

What stands where walking has come to, and the first name, settle how it goes on. -/

section

variable {child : Entry α} {target : String} {more : List String} {budget : ℕ}

/-- Walking fails where nothing stands… -/
theorem walk_of_nothing (h : tree.at? loc = none) (budget : ℕ) (more : List String) :
    tree.walk budget loc more = .error .missing := by
  cases more <;> rw [walk, h]

/-- …and comes to an end where the names do. -/
theorem walk_nil (h : tree.at? loc = some e) (budget : ℕ) :
    tree.walk budget loc [] = .ok ⟨loc, e, budget⟩ := by
  rw [walk, h]

/-- Only a directory has something below it. -/
theorem walk_of_notDirectory (h : tree.at? loc = some e) (hother : ∀ cs, e ≠ directory cs) :
    tree.walk budget loc (name :: more) = .error .notDirectory := by
  rw [walk, h]
  cases e with
  | directory cs => exact absurd rfl (hother cs)
  | _ => rfl

variable (h : tree.at? loc = some (directory cs))

include h

theorem walk_dot : tree.walk budget loc ("." :: more) = tree.walk budget loc more := by
  rw [walk, h]
  rfl

theorem walk_dots : tree.walk budget loc (".." :: more) = tree.walk budget loc.dropLast more := by
  rw [walk, h]
  rfl

theorem walk_of_tooLong (hlong : maxName < name.utf8ByteSize) :
    tree.walk budget loc (name :: more) = .error .nameTooLong := by
  have hdot : name ≠ "." ∧ name ≠ ".." := by
    constructor <;> rintro rfl <;> exact absurd hlong (by decide)
  rw [walk, h]
  simp only [hdot.1, hdot.2, hlong, if_false, if_true]

variable (hdot : name ≠ ".") (hdots : name ≠ "..") (hsize : ¬ maxName < name.utf8ByteSize)

include hdot hdots hsize

theorem walk_of_missing (hlookup : cs.lookup name = none) :
    tree.walk budget loc (name :: more) = .error .missing := by
  rw [walk, h]
  simp only [hdot, hdots, hsize, if_false, hlookup]

/-- What is no link is entered… -/
theorem walk_enter (hlookup : cs.lookup name = some child) (hchild : child.isLink = false) :
    tree.walk budget loc (name :: more) = tree.walk budget (loc ++ [name]) more := by
  rw [walk, h]
  simp only [hdot, hdots, hsize, if_false, hlookup]
  cases child with
  | link target => cases hchild
  | _ => rfl

/-- …and a link is followed, if there are links left to follow. -/
theorem walk_follow (hlookup : cs.lookup name = some (link target)) :
    tree.walk (budget + 1) loc (name :: more) =
      tree.walk budget (if (Path.rootOf target.toList).isAbsolute then [] else loc)
        (targetNames target ++ more) := by
  rw [walk, h]
  simp only [hdot, hdots, hsize, if_false, hlookup]

theorem walk_of_exhausted (hlookup : cs.lookup name = some (link target)) :
    tree.walk 0 loc (name :: more) = .error .tooManyLinks := by
  rw [walk, h]
  simp only [hdot, hdots, hsize, if_false, hlookup]

end

/-! ## Opening a location -/

/-- **Walking to what stands below a location** leads there, through no link. -/
theorem walk_location (hsound : tree.isSound = true) (hlink : e.isLink = false) (budget : ℕ)
    (h : tree.at? (loc ++ names) = some e) :
    tree.walk budget loc names = .ok ⟨loc ++ names, e, budget⟩ := by
  induction names generalizing loc with
  | nil =>
    rw [List.append_nil] at h ⊢
    exact walk_nil h budget
  | cons name names ih =>
    have hnames := (isSound_of_at? hsound h).2 name (by simp)
    obtain ⟨-, hdot, hdots, -, -, hsize⟩ := isName_iff.mp hnames
    obtain ⟨d, hd, hbelow⟩ := Option.bind_eq_some_iff.mp ((at?_append tree loc _).symm.trans h)
    obtain ⟨cs, child, rfl, hlookup, hchild⟩ := at?_cons_eq_some_iff.mp hbelow
    have hih : tree.walk budget (loc ++ [name]) names = .ok ⟨loc ++ [name] ++ names, e, budget⟩ :=
      ih (by rwa [List.append_assoc])
    rw [List.append_assoc] at hih
    have hnext : child.isLink = false := by
      cases child with
      | link target => cases (isLink_of_at? hchild).symm.trans hlink
      | _ => rfl
    exact (walk_enter hd hdot hdots (not_lt.mpr hsize) hlookup hnext).trans hih

/-- **A path that is too long** for the system, which counts the bytes of its text. -/
def TooLong (p : Path) : Prop := maxPath < p.text.utf8ByteSize

instance (p : Path) : Decidable (TooLong p) := inferInstanceAs (Decidable (_ < _))

section

variable {cwd : Location} {p : Path} {place : Place α}

theorem openPath_of_hasNull (h : hasNull p = true) :
    tree.openPath cwd p = .error .nullCharacter := if_pos h

/-- A path without a null character is walked along, if it is not too long. -/
theorem openPath_eq_ite (hnull : hasNull p = false) :
    tree.openPath cwd p =
      if TooLong p then .error .nameTooLong
      else tree.walk maxLinks (if p.isAbsolute then [] else cwd) p.names :=
  if_neg (by simp [hnull])

/-- **How a path is opened**: it is refused for a null character or for its length, and otherwise
its names are walked along. -/
theorem openPath_cases (tree : Entry α) (cwd : Location) (p : Path) :
    (hasNull p = true ∧ tree.openPath cwd p = .error .nullCharacter) ∨
      (hasNull p = false ∧ TooLong p ∧ tree.openPath cwd p = .error .nameTooLong) ∨
      (hasNull p = false ∧ ¬ TooLong p ∧
        tree.openPath cwd p = tree.walk maxLinks (if p.isAbsolute then [] else cwd) p.names) := by
  cases hnull : hasNull p with
  | true => exact Or.inl ⟨rfl, openPath_of_hasNull hnull⟩
  | false =>
    refine Or.inr ?_
    by_cases hlong : TooLong p
    · exact Or.inl ⟨rfl, hlong, (openPath_eq_ite hnull).trans (if_pos hlong)⟩
    · exact Or.inr ⟨rfl, hlong, (openPath_eq_ite hnull).trans (if_neg hlong)⟩

/-- **What is opened is walked to**, and the path has not been refused. -/
theorem openPath_eq_ok_iff :
    tree.openPath cwd p = .ok place ↔ hasNull p = false ∧ ¬ TooLong p ∧
      tree.walk maxLinks (if p.isAbsolute then [] else cwd) p.names = .ok place := by
  rcases openPath_cases tree cwd p with ⟨hnull, hopen⟩ | ⟨-, hlong, hopen⟩ | ⟨hnull, hlong, hopen⟩
  · simp [hnull, hopen]
  · simp [hlong, hopen]
  · simp [hnull, hlong, hopen]

end

/-- The names that lead to something hold no null character. -/
theorem hasNull_location (hsound : tree.isSound = true) (h : tree.at? loc = some e) (root : Root) :
    hasNull ⟨root, loc⟩ = false := by
  refine List.any_eq_false.mpr fun name hname => ?_
  obtain ⟨-, -, -, -, hnull, -⟩ := isName_iff.mp ((isSound_of_at? hsound h).2 name hname)
  simpa using hnull

/-- **A location is opened where it is**, if its path is not too long. -/
theorem openPath_location (hsound : tree.isSound = true) (hlink : e.isLink = false)
    (h : tree.at? loc = some e) (cwd : Location) :
    tree.openPath cwd ⟨.absolute, loc⟩ =
      if TooLong ⟨.absolute, loc⟩ then .error .nameTooLong else .ok ⟨loc, e, maxLinks⟩ := by
  have hwalk : tree.walk maxLinks [] loc = .ok ⟨[] ++ loc, e, maxLinks⟩ :=
    walk_location hsound hlink maxLinks h
  rw [List.nil_append] at hwalk
  rw [openPath_eq_ite (hasNull_location hsound h .absolute), ← hwalk]
  rfl

end Entry

end ProseLinter
