import ProseLinter.Proofs.FileTree.Links
import ProseLinter.Proofs.Outcome
import ProseLinter.Proofs.Path

/-!
# Proofs/FileTree/Collect — which files are below a place

Whatever is found below a place has a path that starts with that of the place
(`exists_below_of_mem_filesBelow`), and it is found by the entries of directories alone or through a
link (`isFile_or_through_link`).  Where there are no links the files below a place are exactly the
files among its entries, unless a path is too long (`filesBelow_of_links_eq_zero`).
-/

namespace ProseLinter

namespace Entry

variable {α : Type} {tree e : Entry α} {p f : Path} {place : Place α} {files : List Path}
  {follow : Path → Place α → Except FileFault (List Path)} {depth : ℕ} {loc names : Location}

/-- A path that is too long is a fault… -/
theorem filesOf_of_tooLong (h : ∃ below ∈ place.entry.entries, TooLong (p.below below.1)) :
    tree.filesOf follow p place = .error .nameTooLong := by
  unfold filesOf
  split
  · rfl
  · next hfind =>
    obtain ⟨below, hbelow, hlong⟩ := h
    exact absurd (decide_eq_true hlong) (List.find?_eq_none.mp hfind below hbelow)

/-- …and otherwise each entry has its files. -/
theorem filesOf_of_fits (h : ∀ below ∈ place.entry.entries, ¬ TooLong (p.below below.1)) :
    tree.filesOf follow p place =
      (place.entry.entries.mapM (tree.filesOfEntry follow p place) >>= fun parts =>
        .ok parts.flatten) := by
  unfold filesOf
  split
  · next below hfind =>
    have hlong := List.find?_some hfind
    exact absurd (of_decide_eq_true hlong) (h below (List.mem_of_find?_eq_some hfind))
  · rfl

/-- **What the files at a place are made of**: those of each entry, none of which has too long a
path. -/
theorem filesOf_eq_ok_iff :
    tree.filesOf follow p place = .ok files ↔
      (∀ below ∈ place.entry.entries, ¬ TooLong (p.below below.1)) ∧
        ∃ parts, List.Forall₂ (fun below part =>
            tree.filesOfEntry follow p place below = .ok part) place.entry.entries parts ∧
          files = parts.flatten := by
  by_cases hlong : ∃ below ∈ place.entry.entries, TooLong (p.below below.1)
  · rw [filesOf_of_tooLong hlong]
    obtain ⟨below, hbelow, hlong⟩ := hlong
    exact ⟨nofun, fun h => absurd hlong (h.1 below hbelow)⟩
  · have hfits : ∀ below ∈ place.entry.entries, ¬ TooLong (p.below below.1) :=
      fun below hbelow htoolong => hlong ⟨below, hbelow, htoolong⟩
    rw [filesOf_of_fits hfits, bind_eq_ok_iff]
    constructor
    · rintro ⟨parts, hparts, h⟩
      exact ⟨hfits, parts, mapM_eq_ok_iff.mp hparts, (Except.ok.inj h).symm⟩
    · rintro ⟨-, parts, hparts, rfl⟩
      exact ⟨parts, mapM_eq_ok_iff.mpr hparts, rfl⟩

/-- A file at a place is one of the files of an entry. -/
theorem exists_of_mem_filesOf (h : tree.filesOf follow p place = .ok files) (hf : f ∈ files) :
    ∃ below ∈ place.entry.entries, ∃ part,
      tree.filesOfEntry follow p place below = .ok part ∧ f ∈ part := by
  obtain ⟨-, parts, hparts, rfl⟩ := filesOf_eq_ok_iff.mp h
  obtain ⟨part, hpart, hf⟩ := List.mem_flatten.mp hf
  obtain ⟨below, hbelow, heq⟩ := forall₂_right hparts part hpart
  exact ⟨below, hbelow, part, heq, hf⟩

/-- **What is found among the entries** of a place is one of its files, or lies at or below where
one of its links is. -/
theorem mem_filesOf_cases (h : tree.filesOf follow p place = .ok files) (hf : f ∈ files)
    (hfollow : ∀ p place files, follow p place = .ok files →
      ∀ f ∈ files, ∃ names, f = p.below names) :
    (∃ names content, (names, file content) ∈ place.entry.entries ∧ f = p.below names) ∨
      ∃ names target more, (names, link target) ∈ place.entry.entries ∧
        f = p.below (names ++ more) := by
  obtain ⟨⟨names, e⟩, hmem, part, hpart, hf⟩ := exists_of_mem_filesOf h hf
  cases e with
  | file content =>
    obtain rfl := Except.ok.inj hpart
    exact Or.inl ⟨names, content, hmem, List.mem_singleton.mp hf⟩
  | directory cs =>
    obtain rfl := Except.ok.inj hpart
    cases hf
  | link target =>
    rw [filesOfEntry] at hpart
    split at hpart
    · obtain ⟨more, rfl⟩ := hfollow _ _ _ hpart f hf
      exact Or.inr ⟨names, target, more, hmem, Path.below_below p names more⟩
    · cases hpart
    · obtain rfl := Except.ok.inj hpart
      cases hf

/-- Whatever is found below a place has a path that starts with that of the place. -/
theorem exists_below_of_mem_filesBelow : ∀ (depth : ℕ) (p : Path) (place : Place α)
    (files : List Path), tree.filesBelow depth p place = .ok files →
      ∀ f ∈ files, ∃ names, f = p.below names
  | 0, p, place, files, h, f, hf => by
      rcases mem_filesOf_cases h hf (by rintro _ _ _ ⟨⟩; exact nofun) with
        ⟨names, -, -, rfl⟩ | ⟨names, -, more, -, rfl⟩
      exacts [⟨_, rfl⟩, ⟨_, rfl⟩]
  | depth + 1, p, place, files, h, f, hf => by
      rcases mem_filesOf_cases h hf (exists_below_of_mem_filesBelow depth) with
        ⟨names, -, -, rfl⟩ | ⟨names, -, more, -, rfl⟩
      exacts [⟨_, rfl⟩, ⟨_, rfl⟩]

/-- **What is found below a location** is a file there, or was found through a link. -/
theorem isFile_or_through_link (hsound : tree.isSound = true) {budget : ℕ}
    (hloc : tree.at? loc = some e)
    (h : tree.filesBelow depth ⟨.absolute, loc⟩ ⟨loc, e, budget⟩ = .ok files) (hf : f ∈ files) :
    (∃ content, tree.at? f.names = some (file content)) ∨
      ∃ front, front <+: f.names ∧ tree.isLinkAt front ≠ none := by
  have hat : ∀ names d, (names, d) ∈ e.entries → tree.at? (loc ++ names) = some d :=
    fun names d hmem => by
      rw [at?_append, hloc, Option.bind_some]
      exact (mem_entries_iff (isSound_of_at? hsound hloc).1).mp hmem
  have hcases : (∃ names content, (names, file content) ∈ e.entries ∧
      f = Path.below ⟨.absolute, loc⟩ names) ∨
        ∃ names target more, (names, link target) ∈ e.entries ∧
          f = Path.below ⟨.absolute, loc⟩ (names ++ more) := by
    cases depth with
    | zero => exact mem_filesOf_cases h hf (by rintro _ _ _ ⟨⟩; exact nofun)
    | succ depth => exact mem_filesOf_cases h hf (exists_below_of_mem_filesBelow depth)
  rcases hcases with ⟨names, content, hmem, rfl⟩ | ⟨names, target, more, hmem, rfl⟩
  · exact Or.inl ⟨content, hat _ _ hmem⟩
  · refine Or.inr ⟨loc ++ names, ⟨more, by simp [Path.below]⟩, ?_⟩
    simp [isLinkAt, hat _ _ hmem]

/-- **What goes wrong below a place** is that a name is too long. -/
theorem fault_of_filesOf {fault : FileFault} (h : tree.filesOf follow p place = .error fault)
    (hfollow : ∀ p place fault, follow p place = .error fault → fault = .nameTooLong) :
    fault = .nameTooLong := by
  unfold filesOf at h
  split at h
  · exact (Except.error.inj h).symm
  · rcases bind_eq_error_iff.mp h with h | ⟨parts, -, h⟩
    · obtain ⟨⟨names, e⟩, -, h⟩ := exists_of_mapM_eq_error h
      cases e with
      | link target =>
        rw [filesOfEntry] at h
        split at h
        · exact hfollow _ _ _ h
        · exact (Except.error.inj h).symm
        · cases h
      | _ => cases h
    · cases h

theorem fault_of_filesBelow : ∀ (depth : ℕ) (p : Path) (place : Place α) (fault : FileFault),
    tree.filesBelow depth p place = .error fault → fault = .nameTooLong
  | 0, _, _, _, h => fault_of_filesOf h fun _ _ _ => nofun
  | depth + 1, _, _, _, h => fault_of_filesOf h (fault_of_filesBelow depth)

theorem fault_of_filesAt {cwd : Location} {fault : FileFault}
    (h : tree.filesAt cwd p = .error fault) : fault = .nameTooLong := by
  unfold filesAt at h
  split at h
  · exact fault_of_filesBelow _ _ _ _ h
  · exact (Except.error.inj h).symm
  · cases h

/-- **The files at a location** are those below what stands there, if its path is not too long. -/
theorem filesAt_location (hsound : tree.isSound = true) (hlink : e.isLink = false)
    (hloc : tree.at? loc = some e) (cwd : Location) :
    tree.filesAt cwd ⟨.absolute, loc⟩ =
      if TooLong ⟨.absolute, loc⟩ then .error .nameTooLong
      else tree.filesBelow maxLinks ⟨.absolute, loc⟩ ⟨loc, e, maxLinks⟩ := by
  rw [filesAt, openPath_location hsound hlink hloc]
  by_cases hlong : TooLong ⟨.absolute, loc⟩
  · rw [if_pos hlong, if_pos hlong]
  · rw [if_neg hlong, if_neg hlong]

/-! ## Places below one another -/

/-- **What is found below a place is found above it too**: something that stands at or below the
place has files if the place has, and they are files of the place. -/
theorem exists_filesOf_below (hsound : tree.isSound = true) {d : Entry α} {budget : ℕ}
    (hloc : tree.at? loc = some e) (hbelow : e.at? names = some d) (hlink : d.isLink = false)
    (h : tree.filesOf follow p ⟨loc, e, budget⟩ = .ok files) :
    ∃ part, tree.filesOf follow (p.below names) ⟨loc ++ names, d, budget⟩ = .ok part ∧
      ∀ f ∈ part, f ∈ files := by
  obtain ⟨hfits, parts, hparts, rfl⟩ := filesOf_eq_ok_iff.mp h
  have hat : tree.at? (loc ++ names) = some d := by
    rw [at?_append, hloc, Option.bind_some, hbelow]
  have hentry : ∀ below ∈ d.entries, (names ++ below.1, below.2) ∈ e.entries := fun below hmem => by
    have hd := (mem_entries_iff (isSound_of_at? hsound hat).1).mp hmem
    exact mem_entries_of_at? (by rw [at?_append, hbelow, Option.bind_some, hd])
  have hwalk : ∀ more, tree.walk budget (loc ++ names) more =
      tree.walk budget loc (names ++ more) := fun more => by
    rw [walk_append, walk_location hsound hlink budget hat]
    rfl
  have hfiles : ∀ below, tree.filesOfEntry follow (p.below names) ⟨loc ++ names, d, budget⟩ below =
      tree.filesOfEntry follow p ⟨loc, e, budget⟩ (names ++ below.1, below.2) := by
    rintro ⟨more, content | cs | target⟩
    · simp only [filesOfEntry, Path.below_below]
    · rfl
    · simp only [filesOfEntry, Path.below_below, hwalk]
  obtain ⟨parts', hparts'⟩ := exists_forall₂ fun below hmem =>
    forall₂_left hparts _ (hentry below hmem)
  refine ⟨parts'.flatten, filesOf_eq_ok_iff.mpr ⟨fun below hmem => ?_, parts', ?_, rfl⟩, ?_⟩
  · rw [Path.below_below]
    exact hfits (names ++ below.1, below.2) (hentry below hmem)
  · exact hparts'.imp fun below part hpart => (hfiles below).trans hpart.2
  · intro f hf
    obtain ⟨part, hpart, hf⟩ := List.mem_flatten.mp hf
    obtain ⟨below, -, hmem, -⟩ := forall₂_right hparts' part hpart
    exact List.mem_flatten.mpr ⟨part, hmem, hf⟩

/-- **The files at a location** are among those at a location above it. -/
theorem exists_filesAt_below (hsound : tree.isSound = true) {d : Entry α} {cwd : Location}
    (hloc : tree.at? loc = some e) (hlink : e.isLink = false) (hbelow : e.at? names = some d)
    (hlink' : d.isLink = false) (h : tree.filesAt cwd ⟨.absolute, loc⟩ = .ok files) :
    ∃ part, tree.filesAt cwd ⟨.absolute, loc ++ names⟩ = .ok part ∧ ∀ f ∈ part, f ∈ files := by
  have hat : tree.at? (loc ++ names) = some d := by
    rw [at?_append, hloc, Option.bind_some, hbelow]
  rw [filesAt_location hsound hlink hloc] at h
  split at h
  · cases h
  · obtain ⟨part, hpart, hsub⟩ := exists_filesOf_below hsound hloc hbelow hlink' h
    have hfits : ¬ TooLong ⟨.absolute, loc ++ names⟩ := by
      simpa [Path.below] using
        (filesOf_eq_ok_iff.mp hpart).1 ([], d) (mem_entries_nil_iff.mpr rfl)
    rw [filesAt_location hsound hlink' hat, if_neg hfits]
    exact ⟨part, hpart, hsub⟩

/-! ## Without links -/

theorem filesOf_of_links_eq_zero (hlinks : place.entry.links = 0)
    (follow : Path → Place α → Except FileFault (List Path)) (p : Path) :
    tree.filesOf follow p place =
      if ∃ below ∈ place.entry.entries, TooLong (p.below below.1) then .error .nameTooLong
      else .ok ((place.entry.entries.filter (·.2.isFile)).map fun below => p.below below.1) := by
  have hlink : ∀ below ∈ place.entry.entries, below.2.isLink = false := fun below hbelow => by
    rw [← countP_entries, List.countP_eq_zero] at hlinks
    simpa using hlinks below hbelow
  split
  · next hlong => exact filesOf_of_tooLong hlong
  · next hfits =>
    have hfits : ∀ below ∈ place.entry.entries, ¬ TooLong (p.below below.1) :=
      fun below hbelow hlong => hfits ⟨below, hbelow, hlong⟩
    refine filesOf_eq_ok_iff.mpr ⟨hfits, place.entry.entries.map fun below =>
      if below.2.isFile then [p.below below.1] else [], ?_, ?_⟩
    · rw [List.forall₂_map_right_iff]
      refine List.forall₂_same.mpr fun below hbelow => ?_
      obtain ⟨names, e⟩ := below
      cases e with
      | link target => cases hlink _ hbelow
      | _ => rfl
    · rw [← List.flatMap_def, flatMap_if]

/-- **Where there are no links**, the files below a place are those among its entries. -/
theorem filesBelow_of_links_eq_zero (hlinks : place.entry.links = 0) (depth : ℕ) (p : Path) :
    tree.filesBelow depth p place =
      if ∃ below ∈ place.entry.entries, TooLong (p.below below.1) then .error .nameTooLong
      else .ok ((place.entry.entries.filter (·.2.isFile)).map fun below => p.below below.1) := by
  cases depth <;> exact filesOf_of_links_eq_zero hlinks _ p

/-- **Where there are no links**, the files at a location are those among the entries there. -/
theorem filesAt_eq_ok_iff (hsound : tree.isSound = true) (hloc : tree.at? loc = some e)
    (hlinks : e.links = 0) {cwd : Location} :
    tree.filesAt cwd ⟨.absolute, loc⟩ = .ok files ↔
      (∀ below ∈ e.entries, ¬ TooLong (Path.below ⟨.absolute, loc⟩ below.1)) ∧
        (e.entries.filter (·.2.isFile)).map (fun below => Path.below ⟨.absolute, loc⟩ below.1) =
          files := by
  have hlink : e.isLink = false := by
    cases e with
    | link target => cases hlinks
    | _ => rfl
  rw [filesAt_location hsound hlink hloc, filesBelow_of_links_eq_zero hlinks]
  constructor
  · intro h
    split at h
    · cases h
    · split at h
      · cases h
      · next hfits =>
        exact ⟨fun below hbelow hlong => hfits ⟨below, hbelow, hlong⟩, Except.ok.inj h⟩
  · rintro ⟨hfits, rfl⟩
    have htop : ¬ TooLong ⟨.absolute, loc⟩ := by
      simpa using hfits ([], e) (mem_entries_nil_iff.mpr rfl)
    rw [if_neg htop, if_neg fun ⟨below, hbelow, hlong⟩ => hfits below hbelow hlong]

end Entry

end ProseLinter
