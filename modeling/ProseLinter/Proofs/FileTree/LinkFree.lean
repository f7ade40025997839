import ProseLinter.Extension.Find
import ProseLinter.Proofs.FileTree.Links

/-!
# Proofs/FileTree/LinkFree — trees without links

In a tree without links there is nothing to follow: what is opened at an absolute path is what
stands at its location (`Entry.LinkFree.opened_eq`), and the path is resolved already
(`Entry.LinkFree.resolve_eq`).  So whether there is a file somewhere is read off the tree, and so is
what directories offer under a name (`Workspace.findIn_eq`).
-/

namespace ProseLinter

namespace Entry

variable {α : Type} {tree e : Entry α} {loc cwd : Location} {names : List String}

/-- **A tree without links** that is sound, and all of whose locations can be opened. -/
structure LinkFree (tree : Entry α) : Prop where
  links : tree.links = 0
  isSound : tree.isSound = true
  fits : ∀ below ∈ tree.entries, ¬ TooLong ⟨.absolute, below.1⟩

/-- Names without those that stand for a directory and for the one above it. -/
def HasNoDots (names : List String) : Prop := ∀ n ∈ names, n ≠ "." ∧ n ≠ ".."

instance (names : List String) : Decidable (HasNoDots names) :=
  inferInstanceAs (Decidable (∀ _ ∈ _, _))

namespace LinkFree

theorem isLinkAt_eq_none (h : LinkFree tree) (via : Location) : tree.isLinkAt via = none := by
  by_contra hlink
  have hcard := card_le_links (s := {via}) fun v hv =>
    Finset.mem_singleton.mp hv ▸ hlink
  rw [Finset.card_singleton, h.links] at hcard
  exact absurd hcard (by decide)

/-- What stands in a tree has a location of names. -/
theorem isName_of_at? (h : LinkFree tree) (hat : tree.at? names = some e) :
    ∀ n ∈ names, isName n = true := (isSound_of_at? h.isSound hat).2

/-- **Walking comes to what stands at the location.** -/
theorem walked_eq (h : LinkFree tree) (budget : ℕ) (hnames : HasNoDots names) :
    (tree.walk budget loc names).toOption.map (·.entry) = tree.at? (loc ++ names) := by
  have hlink : ∀ {loc cs name target}, tree.at? loc = some (directory cs) →
      cs.lookup name ≠ some (link target) := fun {loc cs name target} hcs hlookup => by
    have hnone := h.isLinkAt_eq_none (loc ++ [name])
    rw [isLinkAt_concat hcs, hlookup] at hnone
    cases hnone
  fun_induction walk tree budget loc names with
  | case1 budget loc e he => rw [List.append_nil, he]; rfl
  | case2 budget loc hnone => rw [List.append_nil, hnone]; rfl
  | case3 budget loc name names hnone => rw [at?_append, hnone]; rfl
  | case4 => exact absurd rfl (hnames "." List.mem_cons_self).1
  | case5 => exact absurd rfl (hnames ".." List.mem_cons_self).2
  | case6 budget loc name names cs hcs _ _ hlong =>
    -- a name that is too long is none of the tree's
    rw [at?_below hcs]
    cases hlookup : cs.lookup name with
    | none => rfl
    | some child =>
      have hat : tree.at? (loc ++ [name]) = some child := by
        rw [at?_below hcs, hlookup, Option.bind_some, at?_nil]
      obtain ⟨-, -, -, -, -, hsize⟩ := isName_iff.mp (h.isName_of_at? hat name (by simp))
      exact absurd hlong (not_lt.mpr hsize)
  | case7 budget loc name names cs hcs _ _ _ hlookup => rw [at?_below hcs, hlookup]; rfl
  | case8 loc name names cs hcs _ _ _ target hlookup => exact absurd hlookup (hlink hcs)
  | case9 loc name names cs hcs _ _ _ target hlookup => exact absurd hlookup (hlink hcs)
  | case10 budget loc name names cs _ _ _ _ child _ _ ih =>
    rw [ih (List.forall_mem_cons.mp hnames).2, List.append_assoc]
    rfl
  | case11 budget loc name names e hother he =>
    rw [at?_append, he, Option.bind_some, at?_cons]
    cases e with
    | directory cs => exact absurd rfl (hother cs)
    | _ => rfl

/-- **What is opened at a path** is what stands at its location. -/
theorem opened_eq (h : LinkFree tree) (hdots : HasNoDots names) (cwd : Location) :
    (tree.openPath cwd ⟨.absolute, names⟩).toOption.map (·.entry) = tree.at? names := by
  have hwalked : (tree.walk maxLinks [] names).toOption.map (·.entry) = tree.at? names :=
    h.walked_eq maxLinks hdots
  cases hat : tree.at? names with
  | none =>
    rw [hat] at hwalked
    rcases openPath_cases tree cwd ⟨.absolute, names⟩ with ⟨-, h⟩ | ⟨-, -, h⟩ | ⟨-, -, h⟩ <;> rw [h]
    · rfl
    · rfl
    · exact hwalked
  | some e =>
    have hnull : hasNull ⟨.absolute, names⟩ = false := hasNull_location h.isSound hat .absolute
    have hfits : ¬ TooLong ⟨.absolute, names⟩ := h.fits (names, e) (mem_entries_of_at? hat)
    rw [openPath_eq_ite hnull, if_neg hfits, ← hat]
    exact hwalked

/-- There is a file at a path if one stands at its location. -/
theorem isFileAt_eq (h : LinkFree tree) (hdots : HasNoDots names) (cwd : Location) :
    tree.isFileAt cwd ⟨.absolute, names⟩ = (tree.at? names).any isFile := by
  rw [← h.opened_eq hdots cwd, isFileAt]
  cases tree.openPath cwd ⟨.absolute, names⟩ <;> rfl

/-- The content of a file is that of the file at the location. -/
theorem read_eq (h : LinkFree tree) (hdots : HasNoDots names) (cwd : Location) {content : α}
    (hfile : tree.at? names = some (.file content)) :
    tree.read cwd ⟨.absolute, names⟩ = .ok content := by
  have hopened := h.opened_eq hdots cwd
  rw [hfile] at hopened
  rw [read]
  cases hopen : tree.openPath cwd ⟨.absolute, names⟩ with
  | error e =>
    rw [hopen] at hopened
    cases hopened
  | ok place =>
    rw [hopen] at hopened
    obtain ⟨location, entry, budget⟩ := place
    obtain rfl := Option.some.inj hopened
    rfl

/-- Names lead right to their location. -/
theorem leads (h : LinkFree tree) : ∀ {names : List String} (loc : Location),
    HasNoDots names → Leads tree 0 loc names (loc ++ names)
  | [], loc, _ => by
      rw [List.append_nil]
      exact .done loc
  | name :: rest, loc, hnames => by
      obtain ⟨⟨hdot, hdots⟩, hrest⟩ := List.forall_mem_cons.mp hnames
      have hleads := leads h (loc ++ [name]) hrest
      rw [List.append_assoc, List.singleton_append] at hleads
      exact .enter hdot hdots (h.isLinkAt_eq_none _) hleads

/-- **A path is resolved already** where there are no links. -/
theorem resolve_eq (h : LinkFree tree) (hcwd : HasNoDots cwd) (hdots : HasNoDots names)
    (hnull : hasNull ⟨.absolute, names⟩ = false) :
    tree.resolve cwd ⟨.absolute, names⟩ = .ok ⟨.absolute, names⟩ :=
  resolve_of_leads ⟨hcwd, fun front _ => h.isLinkAt_eq_none front⟩ hnull (h.leads [] hdots)

end LinkFree

end Entry

namespace Workspace

variable {w : Workspace} {names : List String} {directories : List Path} {part : String}

theorem isFile_eq (h : w.tree.LinkFree) (hdots : Entry.HasNoDots names) :
    w.isFile ⟨.absolute, names⟩ = (w.tree.at? names).any Entry.isFile :=
  h.isFileAt_eq hdots w.cwd

theorem isDirectory_eq (h : w.tree.LinkFree) (hdots : Entry.HasNoDots names) :
    w.isDirectory ⟨.absolute, names⟩ = (w.tree.at? names).any Entry.isDirectory := by
  rw [← h.opened_eq hdots w.cwd, isDirectory]
  cases w.tree.openPath w.cwd ⟨.absolute, names⟩ <;> rfl

/-- Below the working directory there is no file where none stands at the location. -/
theorem isFile_relative_eq_false (h : w.tree.LinkFree) (hdots : Entry.HasNoDots names)
    (hat : (w.tree.at? (w.cwd ++ names)).any Entry.isFile = false) :
    w.isFile ⟨.relative, names⟩ = false := by
  have hwalked : (w.tree.walk Entry.maxLinks w.cwd names).toOption.map (·.entry) =
      w.tree.at? (w.cwd ++ names) := h.walked_eq Entry.maxLinks hdots
  rw [← hwalked] at hat
  rw [isFile, Entry.isFileAt]
  split
  · next place hopen =>
    have hwalk : w.tree.walk Entry.maxLinks w.cwd names = .ok place := Entry.walk_of_openPath hopen
    rw [hwalk] at hat
    exact hat
  · rfl

/-! ## Finding in a tree without links -/

/-- What a directory offers under a name, read off the tree. -/
def offerAt? (tree : Entry FileContent) (directory : Path) (name : String) : Option Found :=
  let package := directory.child name
  let candidates : List (Path × Option (List Path)) :=
    [ (package.child (packageFile ++ sourceSuffix), some [package]),
      (package.child (packageFile ++ compiledSuffix), some [package]),
      (directory.child (name ++ sourceSuffix), none),
      (directory.child (name ++ compiledSuffix), none) ]
  (candidates.find? fun c => (tree.at? c.1.names).any Entry.isFile).map fun c => ⟨some c.1, c.2⟩

/-- What directories offer under a name, read off the tree. -/
def findAt (tree : Entry FileContent) (directories : List Path) (name : String) : Option Found :=
  match directories.findSome? fun d => offerAt? tree d name with
  | some found => some found
  | none =>
    match (directories.map fun d => d.child name).filter fun p =>
        (tree.at? p.names).any Entry.isDirectory with
    | [] => none
    | plain => some ⟨none, some plain⟩

/-- A path from the top, without dots. -/
def IsStraight (p : Path) : Prop := p.root = .absolute ∧ Entry.HasNoDots p.names

instance (p : Path) : Decidable (IsStraight p) := inferInstanceAs (Decidable (_ ∧ _))

theorem IsStraight.child {p : Path} (h : IsStraight p) (hpart : part ≠ "." ∧ part ≠ "..") :
    IsStraight (p.child part) :=
  ⟨h.1, fun n hn => by
    rcases List.mem_append.mp hn with hn | hn
    · exact h.2 n hn
    · exact List.mem_singleton.mp hn ▸ hpart⟩

/-- A name with a long suffix is no dot, and not two of them. -/
theorem append_ne_dots (part suffix : String) (h : 2 < suffix.length) :
    part ++ suffix ≠ "." ∧ part ++ suffix ≠ ".." := by
  have hlong : 2 < (part ++ suffix).length := by
    rw [String.length_append]
    omega
  refine ⟨fun heq => ?_, fun heq => ?_⟩ <;>
  · rw [heq] at hlong
    exact absurd hlong (by decide)

/-- **Finding in a tree without links** is reading off the tree. -/
theorem findIn_eq (h : w.tree.LinkFree) (hstraight : ∀ d ∈ directories, IsStraight d)
    (hpart : part ≠ "." ∧ part ≠ "..") :
    w.findIn directories part = findAt w.tree directories part := by
  have hfile : ∀ p, IsStraight p → w.isFile p = (w.tree.at? p.names).any Entry.isFile := by
    rintro ⟨root, names⟩ ⟨rfl, hdots⟩
    exact isFile_eq h hdots
  have hdirectory : ∀ p, IsStraight p →
      w.isDirectory p = (w.tree.at? p.names).any Entry.isDirectory := by
    rintro ⟨root, names⟩ ⟨rfl, hdots⟩
    exact isDirectory_eq h hdots
  have hoffer : ∀ d ∈ directories, w.offer? d part = offerAt? w.tree d part := fun d hd => by
    have hpackage := (hstraight d hd).child hpart
    simp only [offer?, offerAt?, List.find?_cons, List.find?_nil,
      hfile _ (hpackage.child (append_ne_dots packageFile sourceSuffix (by decide))),
      hfile _ (hpackage.child (append_ne_dots packageFile compiledSuffix (by decide))),
      hfile _ ((hstraight d hd).child (append_ne_dots part sourceSuffix (by decide))),
      hfile _ ((hstraight d hd).child (append_ne_dots part compiledSuffix (by decide)))]
  have hplain : (directories.map fun d => d.child part).filter w.isDirectory =
      (directories.map fun d => d.child part).filter fun p =>
        (w.tree.at? p.names).any Entry.isDirectory := by
    refine List.filter_congr fun p hp => ?_
    obtain ⟨d, hd, rfl⟩ := List.mem_map.mp hp
    exact hdirectory _ ((hstraight d hd).child hpart)
  have hfirst : (directories.findSome? fun d => w.offer? d part) =
      directories.findSome? fun d => offerAt? w.tree d part := by
    rw [← List.head?_filterMap, List.filterMap_congr hoffer, List.head?_filterMap]
  rw [findIn, hplain, hfirst]
  rfl

end Workspace

end ProseLinter
