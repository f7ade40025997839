import ProseLinter.Proofs.FileTree.Collect
import ProseLinter.Proofs.StableSort
import ProseLinter.Scan

/-!
# Proofs/Scan/Run — inputs, bases, and what a scan finds

An input that exists stands for what its resolved path leads to (`InputAt`).  It **gives** a file
its base if it is the file, or a directory above it; the base of a file is the one that the first
such input gives (`exists_hasBase`).  A scan collects files, gives each of them its base, and keeps
those that the patterns accept (`exists_run`).
-/

namespace ProseLinter

open Entry

namespace Scan

variable {α : Type} {tree e e' : Entry α} {cwd loc loc' : Location} {p f b b' : Path}
  {inputs files : List Path} {included excluded : List String}

/-! ## Inputs -/

/-- **What an input stands for**: the location to which it is resolved, and what is there. -/
structure InputAt (tree : Entry α) (cwd : Location) (p : Path) (loc : Location) (e : Entry α) :
    Prop where
  resolve_eq : tree.resolve cwd p = .ok ⟨.absolute, loc⟩
  at?_eq : tree.at? loc = some e

theorem InputAt.unique (h : InputAt tree cwd p loc e) (h' : InputAt tree cwd p loc' e') :
    loc = loc' ∧ e = e' := by
  obtain ⟨-, rfl⟩ := Path.mk.inj (Except.ok.inj (h.resolve_eq.symm.trans h'.resolve_eq))
  exact ⟨rfl, Option.some.inj (h.at?_eq.symm.trans h'.at?_eq)⟩

/-- **An input that exists** stands for something that is no link. -/
theorem exists_inputAt (h : Stands tree cwd) (hp : tree.exists? cwd p = .ok true) :
    ∃ loc e, InputAt tree cwd p loc e ∧ e.isLink = false := by
  unfold exists? at hp
  split at hp
  · next place hopen =>
    obtain ⟨hresolve, hat, hplain⟩ := resolve_of_openPath (.of_stands h) hopen
    refine ⟨place.location, place.entry, ⟨hresolve, hat⟩, ?_⟩
    have hlink := hplain.isLinkAt _ List.prefix_rfl
    rw [isLinkAt, hat] at hlink
    cases hentry : place.entry with
    | link target => rw [hentry] at hlink; cases hlink
    | _ => rfl
  · cases hp
  · cases hp

/-- **An input that can be opened** at its resolved path: it is no link there, and the path is not
too long. -/
structure OpenAt (tree : Entry α) (cwd : Location) (p : Path) (loc : Location) (e : Entry α) :
    Prop extends InputAt tree cwd p loc e where
  isLink_eq : e.isLink = false
  fits : ¬ TooLong ⟨.absolute, loc⟩

/-- Whether an input is a file is told by what it stands for. -/
theorem OpenAt.isFile_eq (hp : OpenAt tree cwd p loc e) (h : Stands tree cwd) :
    isFile tree cwd ⟨.absolute, loc⟩ = .ok e.isFile := by
  rw [isFile, isFileAt?, openPath_location h.isSound hp.isLink_eq hp.at?_eq, if_neg hp.fits]

/-- The files of an input are those below it. -/
theorem OpenAt.filesAt_eq (hp : OpenAt tree cwd p loc e) (h : Stands tree cwd) :
    tree.filesAt cwd ⟨.absolute, loc⟩ =
      tree.filesBelow maxLinks ⟨.absolute, loc⟩ ⟨loc, e, maxLinks⟩ := by
  rw [filesAt_location h.isSound hp.isLink_eq hp.at?_eq, if_neg hp.fits]

/-! ## Bases -/

/-- **An input gives a file its base**: the directory of the file if it is the file itself, and
else the directory that it is, if it is above the file. -/
inductive Gives (tree : Entry α) (cwd : Location) (p f : Path) : Path → Prop
  | parent {loc : Location} {content : α} : InputAt tree cwd p loc (.file content) →
      f = ⟨.absolute, loc⟩ → Gives tree cwd p f f.parent
  | above {loc names : Location} {cs : List (String × Entry α)} :
      InputAt tree cwd p loc (.directory cs) → names ≠ [] →
        f = Path.below ⟨.absolute, loc⟩ names → Gives tree cwd p f ⟨.absolute, loc⟩

/-- **The base of a file** is given by the first input that gives one. -/
def HasBase (tree : Entry α) (cwd : Location) (inputs : List Path) (f b : Path) : Prop :=
  ∃ before p after, inputs = before ++ p :: after ∧ Gives tree cwd p f b ∧
    ∀ q ∈ before, ∀ b', ¬ Gives tree cwd q f b'

theorem Gives.unique (h : Gives tree cwd p f b) (h' : Gives tree cwd p f b') : b = b' := by
  cases h with
  | parent hfile _ =>
    cases h' with
    | parent _ _ => rfl
    | above hdirectory _ _ => cases (hfile.unique hdirectory).2
  | above hdirectory _ _ =>
    cases h' with
    | parent hfile _ => cases (hfile.unique hdirectory).2
    | above hdirectory' _ _ => rw [(hdirectory.unique hdirectory').1]

/-- A base that is given to a file is a directory above it. -/
theorem Gives.exists_names (h : Stands tree cwd) (hgives : Gives tree cwd p f b) :
    ∃ names, names ≠ [] ∧ f = b.below names := by
  cases hgives with
  | above _ hnames hf => exact ⟨_, hnames, hf⟩
  | @parent loc content hp hf =>
    obtain ⟨cs, hcs⟩ := h.directory
    have hne : loc ≠ [] := by
      rintro rfl
      rw [Option.some.inj ((at?_nil tree).symm.trans hp.at?_eq)] at hcs
      cases cwd <;> simp [at?_cons_eq_some_iff] at hcs
    subst hf
    exact ⟨_, List.cons_ne_nil _ _, (Path.below_parent hne).symm⟩

theorem hasBase_cons_iff : HasBase tree cwd (p :: inputs) f b ↔
    Gives tree cwd p f b ∨ (∀ b', ¬ Gives tree cwd p f b') ∧ HasBase tree cwd inputs f b := by
  constructor
  · rintro ⟨before, q, after, heq, hgives, hbefore⟩
    cases before with
    | nil =>
      obtain ⟨rfl, rfl⟩ := List.cons.inj heq
      exact Or.inl hgives
    | cons first before =>
      obtain ⟨rfl, rfl⟩ := List.cons.inj heq
      exact Or.inr ⟨hbefore p List.mem_cons_self, before, q, after, rfl, hgives,
        fun q hq => hbefore q (List.mem_cons_of_mem p hq)⟩
  · rintro (hgives | ⟨hnot, before, q, after, rfl, hgives, hbefore⟩)
    · exact ⟨[], p, inputs, rfl, hgives, nofun⟩
    · exact ⟨p :: before, q, after, rfl, hgives, List.forall_mem_cons.mpr ⟨hnot, hbefore⟩⟩

theorem HasBase.exists_names (h : Stands tree cwd) (hb : HasBase tree cwd inputs f b) :
    ∃ names, names ≠ [] ∧ f = b.below names := by
  obtain ⟨before, p, after, -, hgives, -⟩ := hb
  exact hgives.exists_names h

/-- A file has one base. -/
theorem HasBase.unique (h : HasBase tree cwd inputs f b) (h' : HasBase tree cwd inputs f b') :
    b = b' := by
  induction inputs with
  | nil =>
    obtain ⟨before, p, after, heq, -⟩ := h
    exact absurd heq (by simp)
  | cons p inputs ih =>
    rcases hasBase_cons_iff.mp h with hgives | ⟨hnot, hrest⟩ <;>
      rcases hasBase_cons_iff.mp h' with hgives' | ⟨hnot', hrest'⟩
    · exact hgives.unique hgives'
    · exact absurd hgives (hnot' b)
    · exact absurd hgives' (hnot b')
    · exact ih hrest hrest'

theorem base_cons (h : Stands tree cwd) (hp : OpenAt tree cwd p loc e) :
    base tree cwd f (p :: inputs) =
      if e.isFile then
        if f = ⟨.absolute, loc⟩ then .ok (Path.parent ⟨.absolute, loc⟩)
        else base tree cwd f inputs
      else match f.relativeTo? ⟨.absolute, loc⟩ with
        | some _ => .ok ⟨.absolute, loc⟩
        | none => base tree cwd f inputs := by
  rw [base, hp.resolve_eq]
  simp only [bind, Except.bind, hp.isFile_eq h]
  rfl

/-- **One input in the search for a base** gives one, or is passed over. -/
theorem base_cons_cases (h : Stands tree cwd) (hp : OpenAt tree cwd p loc e)
    (hfile : ∀ cs, tree.at? f.names ≠ some (.directory cs)) :
    (∃ b, Gives tree cwd p f b ∧ ∀ more, base tree cwd f (p :: more) = .ok b) ∨
      (∀ b, ¬ Gives tree cwd p f b) ∧
        ∀ more, base tree cwd f (p :: more) = base tree cwd f more := by
  have hcons := fun more => @base_cons _ _ _ _ _ _ f more h hp
  cases e with
  | link target => cases hp.isLink_eq
  | file content =>
    simp only [isFile_file, if_true] at hcons
    by_cases hf : f = ⟨.absolute, loc⟩
    · simp only [if_pos hf] at hcons
      exact Or.inl ⟨_, .parent hp.toInputAt hf, fun more => by rw [hcons, ← hf]⟩
    · simp only [if_neg hf] at hcons
      refine Or.inr ⟨fun b hb => ?_, hcons⟩
      cases hb with
      | parent hp' hf' => exact hf ((hp.toInputAt.unique hp').1 ▸ hf')
      | above hp' => cases (hp.toInputAt.unique hp').2
  | directory cs =>
    simp only [isFile_directory, Bool.false_eq_true, if_false] at hcons
    cases hrelative : f.relativeTo? ⟨.absolute, loc⟩ with
    | some relative =>
      simp only [hrelative] at hcons
      obtain ⟨names, rfl, -⟩ := Path.relativeTo?_eq_some_iff.mp hrelative
      have hnames : names ≠ [] := by
        rintro rfl
        exact hfile cs (by simpa using hp.at?_eq)
      exact Or.inl ⟨_, .above hp.toInputAt hnames rfl, hcons⟩
    | none =>
      simp only [hrelative] at hcons
      refine Or.inr ⟨fun b hb => ?_, hcons⟩
      cases hb with
      | parent hp' => cases (hp.toInputAt.unique hp').2
      | above hp' _ hf' =>
        rw [hf', ← (hp.toInputAt.unique hp').1, Path.relativeTo?_below] at hrelative
        cases hrelative

/-- **The base of a file is found** if an input gives one: the search takes the first that does, and
comes to no other input. -/
theorem exists_hasBase (h : Stands tree cwd)
    (hopen : ∀ p ∈ inputs, ∃ loc e, OpenAt tree cwd p loc e)
    (hfile : ∀ cs, tree.at? f.names ≠ some (.directory cs))
    (hgives : ∃ p ∈ inputs, ∃ b, Gives tree cwd p f b) :
    ∃ b, HasBase tree cwd inputs f b ∧ ∀ more, base tree cwd f (inputs ++ more) = .ok b := by
  induction inputs with
  | nil => exact absurd hgives (by simp)
  | cons p inputs ih =>
    obtain ⟨⟨loc, e, hp⟩, hopen⟩ := List.forall_mem_cons.mp hopen
    rcases base_cons_cases h hp hfile with ⟨b, hb, hbase⟩ | ⟨hnot, hbase⟩
    · exact ⟨b, hasBase_cons_iff.mpr (Or.inl hb), fun more => hbase (inputs ++ more)⟩
    · obtain ⟨q, hq, b, hqb⟩ := hgives
      have hrest : q ∈ inputs := (List.mem_cons.mp hq).resolve_left fun hqp => hnot b (hqp ▸ hqb)
      obtain ⟨b, hb, hrestbase⟩ := ih hopen ⟨q, hrest, b, hqb⟩
      exact ⟨b, hasBase_cons_iff.mpr (Or.inr ⟨hnot, hb⟩),
        fun more => (hbase (inputs ++ more)).trans (hrestbase more)⟩

/-! ## Collecting -/

/-- **The files of an input** are those at its resolved path. -/
def FilesOf (tree : Entry α) (cwd : Location) (p : Path) (part : List Path) : Prop :=
  ∃ r, tree.resolve cwd p = .ok r ∧ tree.filesAt cwd r = .ok part

theorem FilesOf.filesAt {part : List Path} (h : FilesOf tree cwd p part)
    (hp : InputAt tree cwd p loc e) : tree.filesAt cwd ⟨.absolute, loc⟩ = .ok part := by
  obtain ⟨r, hr, hpart⟩ := h
  obtain rfl := Except.ok.inj (hp.resolve_eq.symm.trans hr)
  exact hpart

theorem FilesOf.unique {part part' : List Path} (h : FilesOf tree cwd p part)
    (h' : FilesOf tree cwd p part') : part = part' := by
  obtain ⟨r, hr, hpart⟩ := h
  obtain ⟨r', hr', hpart'⟩ := h'
  obtain rfl := Except.ok.inj (hr.symm.trans hr')
  exact Except.ok.inj (hpart.symm.trans hpart')

/-- **What is collected** are the files of each input. -/
theorem collect_eq_ok_iff :
    ∀ {inputs files : List Path}, collect tree cwd inputs = .ok files ↔
      ∃ parts, List.Forall₂ (FilesOf tree cwd) inputs parts ∧ files = parts.flatten
  | [], files => by
      simp only [collect, List.forall₂_nil_left_iff]
      exact ⟨fun h => ⟨[], rfl, (Except.ok.inj h).symm⟩, fun ⟨_, hparts, h⟩ => by
        rw [h, hparts, List.flatten_nil]⟩
  | p :: inputs, files => by
      rw [collect, bind_eq_ok_iff]
      constructor
      · rintro ⟨r, hr, h⟩
        split at h
        · next part hpart =>
          obtain ⟨rest, hrest, h⟩ := bind_eq_ok_iff.mp h
          obtain ⟨parts, hparts, rfl⟩ := collect_eq_ok_iff.mp hrest
          exact ⟨part :: parts, .cons ⟨r, hr, hpart⟩ hparts, (Except.ok.inj h).symm⟩
        · cases h
      · rintro ⟨parts, hparts, rfl⟩
        obtain ⟨part, rest, ⟨r, hr, hpart⟩, hrest, rfl⟩ := List.forall₂_cons_left_iff.mp hparts
        refine ⟨r, hr, ?_⟩
        rw [hpart]
        exact bind_eq_ok_iff.mpr ⟨rest.flatten, collect_eq_ok_iff.mpr ⟨rest, hrest, rfl⟩, rfl⟩

/-- Files are collected if each input has its files. -/
theorem exists_collect_iff : (∃ files, collect tree cwd inputs = .ok files) ↔
    ∀ p ∈ inputs, ∃ part, FilesOf tree cwd p part := by
  constructor
  · rintro ⟨files, hcollect⟩ p hp
    obtain ⟨parts, hparts, -⟩ := collect_eq_ok_iff.mp hcollect
    obtain ⟨part, -, hpart⟩ := forall₂_left hparts p hp
    exact ⟨part, hpart⟩
  · intro h
    obtain ⟨parts, hparts⟩ := exists_forall₂ h
    exact ⟨_, collect_eq_ok_iff.mpr ⟨parts, hparts, rfl⟩⟩

/-- Whatever is collected is one of the files of an input. -/
theorem mem_collect_iff (h : collect tree cwd inputs = .ok files) :
    f ∈ files ↔ ∃ p ∈ inputs, ∃ part, FilesOf tree cwd p part ∧ f ∈ part := by
  obtain ⟨parts, hparts, rfl⟩ := collect_eq_ok_iff.mp h
  rw [List.mem_flatten]
  constructor
  · rintro ⟨part, hpart, hf⟩
    obtain ⟨p, hp, hfiles⟩ := forall₂_right hparts part hpart
    exact ⟨p, hp, part, hfiles, hf⟩
  · rintro ⟨p, hp, part, hfiles, hf⟩
    obtain ⟨part', hpart', hfiles'⟩ := forall₂_left hparts p hp
    exact ⟨part', hpart', hfiles.unique hfiles' ▸ hf⟩

/-- **Collecting fails** only on a path that is too long, if the inputs can be resolved. -/
theorem collect_eq_error (hresolve : ∀ p ∈ inputs, ∃ r, tree.resolve cwd p = .ok r)
    {failure : Failure} (h : collect tree cwd inputs = .error failure) :
    failure = .file .nameTooLong := by
  induction inputs with
  | nil => cases h
  | cons p inputs ih =>
    obtain ⟨⟨r, hr⟩, hresolve⟩ := List.forall_mem_cons.mp hresolve
    rw [collect, hr] at h
    rcases bind_eq_error_iff.mp h with h | ⟨r', hr', h⟩
    · cases h
    · obtain rfl := Except.ok.inj hr'
      split at h
      · rcases bind_eq_error_iff.mp h with h | ⟨rest, -, h⟩
        · exact ih hresolve h
        · cases h
      · next fault hfault =>
        rw [← Except.error.inj h, fault_of_filesAt hfault]

/-- Inputs whose files were collected can be opened. -/
theorem exists_openAt_of_collect (h : Stands tree cwd)
    (hexists : ∀ p ∈ inputs, tree.exists? cwd p = .ok true)
    (hcollect : collect tree cwd inputs = .ok files) :
    ∀ p ∈ inputs, ∃ loc e, OpenAt tree cwd p loc e := by
  intro p hp
  obtain ⟨loc, e, hat, hlink⟩ := exists_inputAt h (hexists p hp)
  refine ⟨loc, e, hat, hlink, fun hlong => ?_⟩
  obtain ⟨part, hpart⟩ := exists_collect_iff.mp ⟨files, hcollect⟩ p hp
  have hfault := hpart.filesAt hat
  rw [filesAt_location h.isSound hlink hat.at?_eq, if_pos hlong] at hfault
  cases hfault

/-- **A file of an input** stands in no directory's place… -/
theorem FilesOf.ne_directory {part : List Path} (hfiles : FilesOf tree cwd p part)
    (h : Stands tree cwd) (hp : OpenAt tree cwd p loc e) (hf : f ∈ part)
    (cs : List (String × Entry α)) : tree.at? f.names ≠ some (.directory cs) := by
  have hpart := (hp.filesAt_eq h).symm.trans (hfiles.filesAt hp.toInputAt)
  intro hcs
  rcases isFile_or_through_link h.isSound hp.at?_eq hpart hf with
    ⟨content, hcontent⟩ | ⟨front, hfront, hne⟩
  · cases hcontent.symm.trans hcs
  · exact hne ((Plain.of_at? h.isSound hcs rfl).isLinkAt front hfront)

/-- …and has a base from the input. -/
theorem FilesOf.exists_gives {part : List Path} (hfiles : FilesOf tree cwd p part)
    (h : Stands tree cwd) (hp : OpenAt tree cwd p loc e) (hf : f ∈ part) :
    ∃ b, Gives tree cwd p f b := by
  have hfile := hfiles.ne_directory h hp hf
  have hpart := (hp.filesAt_eq h).symm.trans (hfiles.filesAt hp.toInputAt)
  obtain ⟨names, rfl⟩ := exists_below_of_mem_filesBelow _ _ _ _ hpart f hf
  cases e with
  | link target => cases hp.isLink_eq
  | file content =>
    have hnames : names = [] := by
      rw [filesBelow_of_links_eq_zero rfl, if_neg (by simpa [entries] using hp.fits)] at hpart
      obtain rfl := Except.ok.inj hpart
      simpa [entries, Path.below] using hf
    exact ⟨_, .parent hp.toInputAt (by rw [hnames, Path.below_nil])⟩
  | directory cs =>
    have hnames : names ≠ [] := by
      rintro rfl
      exact hfile cs (by simpa using hp.at?_eq)
    exact ⟨_, .above hp.toInputAt hnames rfl⟩

/-- **A collected file has a base**, which an input gives it. -/
theorem exists_hasBase_of_mem (h : Stands tree cwd)
    (hexists : ∀ p ∈ inputs, tree.exists? cwd p = .ok true)
    (hcollect : collect tree cwd inputs = .ok files) (hf : f ∈ files) :
    ∃ b, HasBase tree cwd inputs f b ∧ ∀ more, base tree cwd f (inputs ++ more) = .ok b := by
  have hopen := exists_openAt_of_collect h hexists hcollect
  obtain ⟨p, hp, part, hfiles, hfpart⟩ := (mem_collect_iff hcollect).mp hf
  obtain ⟨loc, e, hat⟩ := hopen p hp
  exact exists_hasBase h hopen (hfiles.ne_directory h hat hfpart)
    ⟨p, hp, hfiles.exists_gives h hat hfpart⟩

/-! ## Running -/

theorem mem_sorted : f ∈ sorted files ↔ f ∈ files := by
  rw [sorted, (List.mergeSort_perm _ _).mem_iff, List.mem_eraseDups]

/-- **Sorted files are increasing.** -/
theorem increasing_sorted (files : List Path) : Path.Increasing (sorted files) := by
  have hle : ∀ p q : Path, (!q.before p) = true ↔ p.key ≤ q.key := fun p q => by
    rw [Bool.not_eq_true', ← Bool.not_eq_true, Path.before_iff_key_lt, not_lt]
  exact (pairwise_lt_eraseDups Path.key_injective hle files).imp Path.before_iff_key_lt.mpr

/-- Each file has its verdict, by its base. -/
theorem judge_eq_ok {baseOf : Path → Path}
    (h : ∀ f ∈ files, base tree cwd f inputs = .ok (baseOf f)) :
    judge tree cwd included excluded inputs files =
      .ok (files.map fun f => (f, verdict included excluded (baseOf f) f)) := by
  induction files with
  | nil => rfl
  | cons f files ih =>
    obtain ⟨hf, h⟩ := List.forall_mem_cons.mp h
    rw [judge, hf, ih h]
    rfl

/-- **A scan keeps what is included**: the collected files to whose base the patterns say so, in
increasing order. -/
theorem exists_run (hcollect : collect tree cwd inputs = .ok files)
    (hbase : ∀ f ∈ files, ∃ b, base tree cwd f inputs = .ok b) :
    ∃ scan, run tree cwd included excluded inputs = .ok scan ∧ Path.Increasing scan.files ∧
      ∀ f, f ∈ scan.files ↔ f ∈ files ∧ ∃ b, base tree cwd f inputs = .ok b ∧
        verdict included excluded b f = .included := by
  choose! baseOf hbaseOf using hbase
  have hjudge : judge tree cwd included excluded inputs files = .ok _ := judge_eq_ok hbaseOf
  refine ⟨_, by rw [run, hcollect]; simp only [bind, Except.bind, hjudge]; rfl,
    increasing_sorted _, fun f => ?_⟩
  rw [mem_sorted]
  constructor
  · intro hf
    obtain ⟨⟨f, v⟩, hfv, rfl⟩ := List.mem_map.mp hf
    obtain ⟨hmem, hv⟩ := List.mem_filter.mp hfv
    obtain ⟨f', hf', heq⟩ := List.mem_map.mp hmem
    obtain ⟨rfl, rfl⟩ := Prod.mk.inj heq
    exact ⟨hf', _, hbaseOf f' hf', of_decide_eq_true hv⟩
  · rintro ⟨hf, b, hb, hv⟩
    obtain rfl := Except.ok.inj ((hbaseOf f hf).symm.trans hb)
    refine List.mem_map.mpr ⟨(f, .included), List.mem_filter.mpr ⟨?_, rfl⟩, rfl⟩
    exact List.mem_map.mpr ⟨f, hf, by rw [hv]⟩

theorem run_eq_error {failure : Failure} (h : collect tree cwd inputs = .error failure) :
    run tree cwd included excluded inputs = .error failure := by
  rw [run, h]
  rfl

end Scan

end ProseLinter
