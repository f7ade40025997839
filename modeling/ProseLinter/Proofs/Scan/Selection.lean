import ProseLinter.Proofs.Scan.Run

/-!
# Proofs/Scan/Selection — which files a scan selects

Where the inputs hold no links, the collected files are those that they hold (`mem_filesOf_iff`).
Each of them lies below its base, so patterns are held against the names from there
(`verdict_below_eq_included_iff`), and a scan selects the files whose names they accept
(`run_selects`).  It fails exactly if the inputs hold something whose path is too long.
-/

namespace ProseLinter

namespace Scan

open Entry

variable {α : Type} {tree e d : Entry α} {cwd loc : Location} {p f b : Path}
  {inputs files part : List Path} {names : List String}

/-! ## What an input holds -/

/-- **An input holds an entry at a path**, at the input or below it, if the entries of directories
lead there from the input. -/
def Holds (tree : Entry α) (cwd : Location) (p f : Path) (d : Entry α) : Prop :=
  ∃ loc e names, InputAt tree cwd p loc e ∧ e.at? names = some d ∧
    f = Path.below ⟨.absolute, loc⟩ names

theorem Holds.mem_entries (hd : Holds tree cwd p f d) :
    f.root = .absolute ∧ (f.names, d) ∈ tree.entries := by
  obtain ⟨loc, e, names, hp, he, rfl⟩ := hd
  refine ⟨rfl, mem_entries_of_at? ?_⟩
  rw [Path.below_names, at?_append, hp.at?_eq, Option.bind_some, he]

/-- In a tree without links no input holds one… -/
theorem not_holds_link (hlinks : tree.links = 0) (cwd : Location) (p f : Path) (target : String) :
    ¬ Holds tree cwd p f (.link target) := fun hd => by
  rw [← countP_entries, List.countP_eq_zero] at hlinks
  exact hlinks _ hd.mem_entries.2 rfl

/-- …and what holds no link has none. -/
theorem links_eq_zero (hsound : e.isSound = true)
    (hlinks : ∀ names target, e.at? names ≠ some (.link target)) : e.links = 0 := by
  rw [← countP_entries, List.countP_eq_zero]
  rintro ⟨names, d⟩ hmem hlink
  cases d with
  | link target => exact hlinks names target ((mem_entries_iff hsound).mp hmem)
  | _ => cases hlink

section

variable (h : Stands tree cwd) (hlinks : ∀ f target, ¬ Holds tree cwd p f (.link target))

include h hlinks

/-- The files of an input that holds no link are those among its entries. -/
theorem filesAt_inputAt_eq_ok_iff (hp : InputAt tree cwd p loc e) :
    tree.filesAt cwd ⟨.absolute, loc⟩ = .ok part ↔
      (∀ below ∈ e.entries, ¬ TooLong (Path.below ⟨.absolute, loc⟩ below.1)) ∧
        (e.entries.filter (·.2.isFile)).map (fun below => Path.below ⟨.absolute, loc⟩ below.1) =
          part :=
  filesAt_eq_ok_iff h.isSound hp.at?_eq
    (links_eq_zero (isSound_of_at? h.isSound hp.at?_eq).1 fun names target htarget =>
      hlinks _ target ⟨loc, e, names, hp, htarget, rfl⟩)

/-- **An input without links has its files** unless it holds something whose path is too long. -/
theorem exists_filesOf_iff (hexists : tree.exists? cwd p = .ok true) :
    (∃ part, FilesOf tree cwd p part) ↔ ∀ f d, Holds tree cwd p f d → ¬ TooLong f := by
  constructor
  · rintro ⟨part, hpart⟩ f d ⟨loc, e, names, hp, hd, rfl⟩
    have hfits := ((filesAt_inputAt_eq_ok_iff h hlinks hp).mp (hpart.filesAt hp)).1
    exact hfits (names, d) (mem_entries_of_at? hd)
  · intro hfits
    obtain ⟨loc, e, hp, -⟩ := exists_inputAt h hexists
    refine ⟨_, _, hp.resolve_eq, (filesAt_inputAt_eq_ok_iff h hlinks hp).mpr ⟨?_, rfl⟩⟩
    intro below hbelow
    have hsound := (isSound_of_at? h.isSound hp.at?_eq).1
    exact hfits _ below.2 ⟨loc, e, below.1, hp, (mem_entries_iff hsound).mp hbelow, rfl⟩

/-- **The files of an input without links** are those that it holds. -/
theorem mem_filesOf_iff (hexists : tree.exists? cwd p = .ok true)
    (hpart : FilesOf tree cwd p part) :
    f ∈ part ↔ ∃ content, Holds tree cwd p f (.file content) := by
  obtain ⟨loc, e, hp, -⟩ := exists_inputAt h hexists
  have hsound := (isSound_of_at? h.isSound hp.at?_eq).1
  obtain ⟨-, rfl⟩ := (filesAt_inputAt_eq_ok_iff h hlinks hp).mp (hpart.filesAt hp)
  constructor
  · intro hf
    obtain ⟨⟨names, d⟩, hmem, rfl⟩ := List.mem_map.mp hf
    obtain ⟨hmem, hfile⟩ := List.mem_filter.mp hmem
    cases d with
    | file content => exact ⟨content, loc, e, names, hp, (mem_entries_iff hsound).mp hmem, rfl⟩
    | _ => cases hfile
  · rintro ⟨content, loc', e', names, hp', hd, rfl⟩
    obtain ⟨rfl, rfl⟩ := hp.unique hp'
    exact List.mem_map.mpr ⟨_, List.mem_filter.mpr ⟨mem_entries_of_at? hd, rfl⟩, rfl⟩

end

/-! ## What the patterns accept -/

/-- Names with slashes between them, and in place of each backslash. -/
def slashed (names : List String) : List Char :=
  (Text.join ['/'] (names.map String.toList)).map fun c => if c = '\\' then '/' else c

/-- **Patterns accept names** if one of the included ones matches them, and none of the excluded
ones does. -/
def Accepts (included excluded names : List String) : Prop :=
  (∀ pattern ∈ excluded, Glob.matches pattern.toList (slashed names) = false) ∧
    ∃ pattern ∈ included, Glob.matches pattern.toList (slashed names) = true

/-- Patterns are held against the names below a base. -/
theorem subject_below (b : Path) (hnames : names ≠ []) :
    Glob.subject b (b.below names) = slashed names := by
  rw [Glob.subject, Path.relativeTo?_below, Option.getD_some, Path.chars, if_neg (by simp [hnames])]
  rfl

/-- **A file below its base is included** if the patterns accept its names from there. -/
theorem verdict_below_eq_included_iff (hnames : names ≠ []) {included excluded : List String} :
    verdict included excluded b (b.below names) = .included ↔ Accepts included excluded names := by
  have hmatches : ∀ patterns : List String, Glob.matchesAny patterns b (b.below names) = true ↔
      ∃ pattern ∈ patterns, Glob.matches pattern.toList (slashed names) = true := fun patterns => by
    rw [Glob.matchesAny, subject_below b hnames, List.any_eq_true]
  have hexcluded : Glob.matchesAny excluded b (b.below names) = false ↔
      ∀ pattern ∈ excluded, Glob.matches pattern.toList (slashed names) = false := by
    rw [← Bool.not_eq_true, hmatches]
    simp
  rw [Accepts, ← hexcluded, ← hmatches, verdict]
  cases Glob.matchesAny excluded b (b.below names) <;>
    cases Glob.matchesAny included b (b.below names) <;> simp

/-! ## Selecting -/

section

variable (h : Stands tree cwd) (hexists : ∀ p ∈ inputs, tree.exists? cwd p = .ok true)

include h hexists

/-- **A collected file lies below its base**, and the search for it ends before the inputs do. -/
theorem exists_hasBase_below (hcollect : collect tree cwd inputs = .ok files) (hf : f ∈ files) :
    ∃ b names, HasBase tree cwd inputs f b ∧ names ≠ [] ∧ f = b.below names ∧
      ∀ more, base tree cwd f (inputs ++ more) = .ok b := by
  obtain ⟨b, hb, hmore⟩ := exists_hasBase_of_mem h hexists hcollect hf
  obtain ⟨names, hnames, hbelow⟩ := hb.exists_names h
  exact ⟨b, names, hb, hnames, hbelow, hmore⟩

/-- **A scan selects** those of the collected files whose names from the base the patterns
accept. -/
theorem exists_run_accepts (hcollect : collect tree cwd inputs = .ok files)
    (included excluded : List String) :
    ∃ scan, run tree cwd included excluded inputs = .ok scan ∧ Path.Increasing scan.files ∧
      ∀ f, f ∈ scan.files ↔ f ∈ files ∧ ∃ b names, HasBase tree cwd inputs f b ∧
        f = b.below names ∧ Accepts included excluded names := by
  have hbase : ∀ f ∈ files, ∃ b, base tree cwd f inputs = .ok b := fun f hf => by
    obtain ⟨b, -, -, -, -, hmore⟩ := exists_hasBase_below h hexists hcollect hf
    exact ⟨b, by simpa using hmore []⟩
  obtain ⟨scan, hrun, hincreasing, hscan⟩ := exists_run hcollect hbase
  refine ⟨scan, hrun, hincreasing, fun f => (hscan f).trans (and_congr_right fun hf => ?_)⟩
  obtain ⟨b, names, hb, hnames, rfl, hmore⟩ := exists_hasBase_below h hexists hcollect hf
  have hok : base tree cwd (b.below names) inputs = .ok b := by simpa using hmore []
  constructor
  · rintro ⟨b', hb', hverdict⟩
    obtain rfl := Except.ok.inj (hok.symm.trans hb')
    exact ⟨b, names, hb, rfl, (verdict_below_eq_included_iff hnames).mp hverdict⟩
  · rintro ⟨b', names', hb', heq, haccepts⟩
    obtain rfl := hb.unique hb'
    obtain rfl : names = names' := by simpa [Path.below] using heq
    exact ⟨b, hok, (verdict_below_eq_included_iff hnames).mpr haccepts⟩

/-- A scan whose files cannot be collected fails on a path that is too long. -/
theorem run_of_not_collect (hnone : ¬ ∃ files, collect tree cwd inputs = .ok files)
    (included excluded : List String) :
    run tree cwd included excluded inputs = .error (.file .nameTooLong) := by
  cases hcollect : collect tree cwd inputs with
  | ok files => exact absurd ⟨files, hcollect⟩ hnone
  | error failure =>
    have hresolve : ∀ p ∈ inputs, ∃ r, tree.resolve cwd p = .ok r := fun p hp =>
      have ⟨_, _, hat, _⟩ := exists_inputAt h (hexists p hp)
      ⟨_, hat.resolve_eq⟩
    rw [run_eq_error hcollect, collect_eq_error hresolve hcollect]

/-- **Without links, the collected files** are those that the inputs hold. -/
theorem mem_collect_iff_holds
    (hlinks : ∀ p ∈ inputs, ∀ f target, ¬ Holds tree cwd p f (.link target))
    (hcollect : collect tree cwd inputs = .ok files) :
    f ∈ files ↔ ∃ p ∈ inputs, ∃ content, Holds tree cwd p f (.file content) := by
  rw [mem_collect_iff hcollect]
  constructor
  · rintro ⟨p, hp, part, hpart, hf⟩
    exact ⟨p, hp, (mem_filesOf_iff h (hlinks p hp) (hexists p hp) hpart).mp hf⟩
  · rintro ⟨p, hp, hf⟩
    obtain ⟨part, hpart⟩ := exists_collect_iff.mp ⟨files, hcollect⟩ p hp
    exact ⟨p, hp, part, hpart, (mem_filesOf_iff h (hlinks p hp) (hexists p hp) hpart).mpr hf⟩

end

/-- **What a scan selects.**  The inputs exist and hold no links.  If they hold something whose path
is too long, the scan fails.  If not, all files that they hold are collected; each of them lies
below its base, which an input gives it before the search comes to the end of the inputs; and the
scan selects, in increasing order, those of them whose names from the base the patterns accept. -/
theorem run_selects (h : Stands tree cwd)
    (hexists : ∀ p ∈ inputs, tree.exists? cwd p = .ok true)
    (hlinks : ∀ p ∈ inputs, ∀ f target, ¬ Holds tree cwd p f (.link target))
    (included excluded : List String) :
    ((∃ p ∈ inputs, ∃ f d, Holds tree cwd p f d ∧ TooLong f) →
        run tree cwd included excluded inputs = .error (.file .nameTooLong)) ∧
      ((∀ p ∈ inputs, ∀ f d, Holds tree cwd p f d → ¬ TooLong f) →
        (∃ files, collect tree cwd inputs = .ok files ∧
            ∀ f, f ∈ files ↔ ∃ p ∈ inputs, ∃ content, Holds tree cwd p f (.file content)) ∧
          (∀ p ∈ inputs, ∀ f content, Holds tree cwd p f (.file content) →
            ∃ b names, HasBase tree cwd inputs f b ∧ names ≠ [] ∧ f = b.below names ∧
              (∀ more, base tree cwd f (inputs ++ more) = .ok b) ∧
              f.relativeTo? b = some ⟨.relative, names⟩) ∧
          ∃ scan, run tree cwd included excluded inputs = .ok scan ∧
            Path.Increasing scan.files ∧
            ∀ f, f ∈ scan.files ↔
              (∃ p ∈ inputs, ∃ content, Holds tree cwd p f (.file content)) ∧
                ∃ b names, HasBase tree cwd inputs f b ∧ f = b.below names ∧
                  Accepts included excluded names) := by
  refine ⟨fun ⟨p, hp, f, d, hd, hlong⟩ => ?_, fun hfits => ?_⟩
  · refine run_of_not_collect h hexists (fun hfiles => ?_) included excluded
    have hpart := exists_collect_iff.mp hfiles p hp
    exact (exists_filesOf_iff h (hlinks p hp) (hexists p hp)).mp hpart f d hd hlong
  · obtain ⟨files, hcollect⟩ := exists_collect_iff.mpr fun p hp =>
      (exists_filesOf_iff h (hlinks p hp) (hexists p hp)).mpr (hfits p hp)
    have hmem : ∀ f, f ∈ files ↔ ∃ p ∈ inputs, ∃ content, Holds tree cwd p f (.file content) :=
      fun f => mem_collect_iff_holds h hexists hlinks hcollect
    refine ⟨⟨files, hcollect, hmem⟩, fun p hp f content hf => ?_, ?_⟩
    · obtain ⟨b, names, hb, hnames, hbelow, hmore⟩ :=
        exists_hasBase_below h hexists hcollect ((hmem f).mpr ⟨p, hp, content, hf⟩)
      exact ⟨b, names, hb, hnames, hbelow, hmore, hbelow ▸ Path.relativeTo?_below b names⟩
    · obtain ⟨scan, hrun, hincreasing, hscan⟩ :=
        exists_run_accepts h hexists hcollect included excluded
      exact ⟨scan, hrun, hincreasing, fun f => (hscan f).trans (and_congr_left' (hmem f))⟩

/-- A directory with a file and another directory in it. -/
def nested : Entry Unit :=
  .directory [("d", .directory [("a", .file ()), ("s", .directory [("b", .file ())])])]

/-- The inner directory is an input too, and the patterns leave its file out by the name that it has
from the outer one. -/
theorem run_selects_nested :
    ∃ scan, run nested [] ["*"] ["s/*"] [.ofText "d", .ofText "d/s"] = .ok scan ∧
      Path.Increasing scan.files ∧
      ∀ f, f ∈ scan.files ↔
        (∃ p ∈ [Path.ofText "d", Path.ofText "d/s"], ∃ content,
            Holds nested [] p f (.file content)) ∧
          ∃ b names, HasBase nested [] [.ofText "d", .ofText "d/s"] f b ∧
            f = b.below names ∧ Accepts ["*"] ["s/*"] names := by
  have hshort : ∀ below ∈ nested.entries, ¬ TooLong ⟨.absolute, below.1⟩ := by decide
  refine ((run_selects ⟨by decide, _, rfl⟩ ?_ ?_ _ _).2 ?_).2.2
  · simp only [List.forall_mem_cons]
    exact ⟨by cbv, by cbv, nofun⟩
  · exact fun p _ => not_holds_link rfl [] p
  · rintro p - ⟨root, names⟩ d hd
    obtain ⟨rfl, hmem⟩ := hd.mem_entries
    exact hshort _ hmem

/-! ## Backslashes and long paths -/

/-- A file whose name has a backslash in it. -/
def backslash : Entry Unit := .directory [("a\\b.md", .file ())]

/-- Directories in one another, with a file in the last one. -/
def tower : ℕ → Entry Unit
  | 0 => .directory [("a.md", .file ())]
  | n + 1 => .directory [("d", tower n)]

theorem at?_tower (n : ℕ) : (tower n).at? (List.replicate n "d") = some (tower 0) := by
  induction n with
  | zero => rw [List.replicate_zero, at?_nil]
  | succ n ih => exact at?_cons_eq_some_iff.mpr ⟨_, tower n, rfl, List.lookup_cons_self, ih⟩

theorem links_tower (n : ℕ) : (tower n).links = 0 := by
  induction n with
  | zero => rfl
  | succ n ih => rw [tower, links, linksOf, linksOf, ih]

theorem isSound_tower (n : ℕ) : (tower n).isSound = true := by
  induction n with
  | zero => decide
  | succ n ih =>
    have hname : isName "d" = true := by decide
    simp [tower, isSound, areSound, hname, ih]

theorem inputAt_tower (n : ℕ) :
    InputAt (tower n) (List.replicate n "d") (.ofText ".") (List.replicate n "d") (tower 0) where
  resolve_eq :=
    have hstands : Stands (tower n) (List.replicate n "d") := ⟨isSound_tower n, _, at?_tower n⟩
    resolve_of_leads (.of_stands hstands) (by decide) (.done (List.replicate n "d"))
  at?_eq := at?_tower n

/-- The path at the end of a high tower is too long. -/
theorem tooLong_tower {n : ℕ} (hn : 2048 ≤ n) : TooLong ⟨.absolute, List.replicate n "d"⟩ := by
  have hslash : '/'.utf8Size = 1 := by decide
  have hd : 'd'.utf8Size = 1 := by decide
  have hjoin : ∀ n,
      String.utf8Len (Text.join ['/'] (List.replicate (n + 1) ['d'])) = 2 * n + 1 := by
    intro n
    induction n with
    | zero => decide
    | succ n ih =>
      rw [List.replicate_succ, List.replicate_succ, Text.join_cons_cons, ← List.replicate_succ]
      simp only [List.cons_append, List.nil_append, String.utf8Len_cons, ih, hslash, hd]
      omega
  obtain ⟨n, rfl⟩ := Nat.exists_eq_add_of_le' (show 1 ≤ n by omega)
  rw [TooLong, Path.text, String.utf8ByteSize_ofList, Path.chars, if_neg (by simp), Root.text,
    List.map_replicate]
  have hname : "d".toList = ['d'] := by decide
  rw [hname, List.singleton_append, String.utf8Len_cons, hjoin, hslash, maxPath]
  omega

/-- **Names are not all that decides**: a file is selected by a pattern that its path does not
match, and a scan fails where the path of a file is too long. -/
theorem run_backslash_tower :
    (Stands backslash [] ∧
      backslash.exists? [] (.ofText ".") = .ok true ∧
      (∀ f target, ¬ Holds backslash [] (.ofText ".") f (.link target)) ∧
      (∃ scan, run backslash [] ["a/*.md"] [] [.ofText "."] = .ok scan ∧
        ⟨.absolute, ["a\\b.md"]⟩ ∈ scan.files) ∧
      base backslash [] ⟨.absolute, ["a\\b.md"]⟩ [.ofText "."] = .ok ⟨.absolute, []⟩ ∧
      Glob.matches "a/*.md".toList "a\\b.md".toList = false) ∧
      Stands (tower 2048) (List.replicate 2048 "d") ∧
      (tower 2048).exists? (List.replicate 2048 "d") (.ofText ".") = .ok true ∧
      (∀ f target, ¬ Holds (tower 2048) (List.replicate 2048 "d") (.ofText ".") f (.link target)) ∧
      run (tower 2048) (List.replicate 2048 "d") ["*.md"] [] [.ofText "."] =
        .error (.file .nameTooLong) := by
  have hp := inputAt_tower 2048
  have hstands : Stands (tower 2048) (List.replicate 2048 "d") := ⟨isSound_tower _, _, hp.at?_eq⟩
  have hexists : (tower 2048).exists? (List.replicate 2048 "d") (.ofText ".") = .ok true := by
    have hdot : Path.ofText "." = ⟨.relative, []⟩ := by cbv
    have hopen : (tower 2048).openPath (List.replicate 2048 "d") ⟨.relative, []⟩ = _ :=
      openPath_eq_ok_iff.mpr ⟨by decide, by decide, walk_nil (at?_tower 2048) maxLinks⟩
    rw [hdot, exists?, hopen]
  refine ⟨⟨⟨by decide, _, rfl⟩, by cbv, not_holds_link rfl _ _, ?_, by cbv, by cbv⟩,
    hstands, hexists, not_holds_link (links_tower 2048) _ _, ?_⟩
  · exact ⟨⟨[], [⟨.absolute, ["a\\b.md"]⟩]⟩, by cbv, List.mem_cons_self⟩
  · refine run_of_not_collect hstands (List.forall_mem_singleton.mpr hexists) (fun hfiles => ?_) _ _
    obtain ⟨part, hpart⟩ := exists_collect_iff.mp hfiles _ List.mem_cons_self
    have hfault := hpart.filesAt hp
    have hlong := tooLong_tower (le_refl 2048)
    rw [filesAt_location hstands.isSound rfl hp.at?_eq, if_pos hlong] at hfault
    cases hfault

end Scan

end ProseLinter
