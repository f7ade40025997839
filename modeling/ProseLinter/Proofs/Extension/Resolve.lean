import ProseLinter.Extension.Resolve
import ProseLinter.Proofs.FileTree.Links
import ProseLinter.Proofs.Path

/-!
# Proofs/Extension/Resolve — which file or module a name stands for

The files that a name may stand for come before the modules: the name as a path, the path below the
working directory, and the bundled files (`fileFor?`).  So modules decide only where none of them
exists (`resolve_priority`), and a name that is resolved to a bundled file stands for a file right
in the directory of the bundled ones, whatever the name looks like.  A name is resolved unless it
has a null character in it or links never come to an end (`resolve_fails`).
-/

namespace ProseLinter

theorem isSuffix_source : IsSuffix Workspace.sourceSuffix := ⟨by decide, by decide⟩

theorem isSuffix_compiled : IsSuffix Workspace.compiledSuffix := ⟨by decide, by decide⟩

/-! ## The files that a name may stand for -/

namespace Search

/-- The name of the package of an extension: with the prefix, and underscores for hyphens. -/
def packageName (s : Search) (name : String) : String :=
  String.ofList ((s.packagePrefix ++ name).toList.map fun c => if c = '-' then '_' else c)

theorem moduleNames_eq (s : Search) (name : String) :
    s.moduleNames name = [s.packageName name, name] := rfl

end Search

namespace Workspace

open Entry

variable {w w' : Workspace} {s : Search} {name : String} {below below' p : Path} {r : Resolved}

/-- The path of a name below the working directory. -/
def pathBelow (w : Workspace) (s : Search) (name : String) : Path :=
  (s.cwd.getD w.cwdPath).append (.ofText name)

/-- **One of the files of a name exists.** -/
def HasFile (w : Workspace) (s : Search) (name : String) (below : Path) : Prop :=
  w.isFile (.ofText name) = true ∨ w.isFile below = true ∨
    ∃ p ∈ s.bundledCandidates name, p.parent = s.bundled ∧ w.isFile p = true

/-- The first file of a name that exists. -/
def fileFor? (w : Workspace) (s : Search) (name : String) (below : Path) : Option Resolved :=
  if w.isFile (.ofText name) then some ⟨name, .ofText name, .file, none⟩
  else if w.isFile below then some ⟨name, below, .cwd, none⟩
  else (w.bundledFile? s name).map fun p => ⟨name, p, .bundled, none⟩

/-- The file of a module, if it is found and has one. -/
def origin? (w : Workspace) (m : String) : Option Path := (w.find m).bind (·.origin)

/-- What a module of a name gives: the package of the name, or the module of the same name. -/
def moduleFor? (w : Workspace) (s : Search) (name : String) : Option Resolved :=
  match w.origin? (s.packageName name), w.origin? name with
  | some origin, _ => some ⟨name, origin, .package, some (s.packageName name)⟩
  | none, some origin => some ⟨name, origin, .package, some name⟩
  | none, none => none

/-- **Files come before modules.** -/
theorem resolve_eq (hname : name ≠ "")
    (hbelow : w.tree.resolve w.cwd (w.pathBelow s name) = .ok below) :
    w.resolve s name = .ok (((w.fileFor? s name below).or (w.moduleFor? s name)).elim
      (.notFound name) .found) := by
  rw [pathBelow] at hbelow
  rw [resolve, if_neg hname]
  simp only [hbelow]
  unfold fileFor?
  split
  · rfl
  · split
    · rfl
    · cases w.bundledFile? s name with
      | some p => rfl
      | none =>
        have hmodule : w.moduleFile? s name =
            ((w.origin? (s.packageName name)).map (s.packageName name, ·)).or
              ((w.origin? name).map (name, ·)) := by
          rw [moduleFile?, s.moduleNames_eq]
          simp only [List.findSome?_cons, List.findSome?_nil, origin?]
          cases (w.find (s.packageName name)).bind (·.origin) <;>
            cases (w.find name).bind (·.origin) <;> rfl
        rw [hmodule, moduleFor?]
        cases w.origin? (s.packageName name) <;> cases w.origin? name <;> rfl

/-- The file of a name is one of its files. -/
theorem fileFor?_cases (h : w.fileFor? s name below = some r) :
    r.moduleName = none ∧ w.isFile r.path = true ∧
      (r.strategy = .file ∧ r.path = .ofText name ∨ r.strategy = .cwd ∧ r.path = below ∨
        r.strategy = .bundled ∧ r.path ∈ s.bundledCandidates name ∧ r.path.parent = s.bundled) := by
  unfold fileFor? at h
  split at h
  · next hgiven =>
    obtain rfl := Option.some.inj h
    exact ⟨rfl, hgiven, Or.inl ⟨rfl, rfl⟩⟩
  · split at h
    · next hfile =>
      obtain rfl := Option.some.inj h
      exact ⟨rfl, hfile, Or.inr (Or.inl ⟨rfl, rfl⟩)⟩
    · obtain ⟨p, hp, rfl⟩ := Option.map_eq_some_iff.mp h
      rw [bundledFile?] at hp
      have hholds := List.find?_some hp
      obtain ⟨hparent, hfile⟩ := Bool.and_eq_true_iff.mp hholds
      exact ⟨rfl, hfile, Or.inr (Or.inr ⟨rfl, List.mem_of_find?_eq_some hp, eq_of_beq hparent⟩)⟩

/-- The module of a name is from a package, and has a file. -/
theorem moduleFor?_cases (h : w.moduleFor? s name = some r) :
    r.strategy = .package ∧ ∃ m, r.moduleName = some m ∧ w.origin? m = some r.path := by
  unfold moduleFor? at h
  split at h
  · next origin horigin =>
    obtain rfl := Option.some.inj h
    exact ⟨rfl, _, rfl, horigin⟩
  · next origin _ horigin =>
    obtain rfl := Option.some.inj h
    exact ⟨rfl, _, rfl, horigin⟩
  · cases h

/-- **What a name is resolved to** is its file, or its module. -/
theorem found_cases (hname : name ≠ "")
    (hbelow : w.tree.resolve w.cwd (w.pathBelow s name) = .ok below)
    (hr : w.resolve s name = .ok (.found r)) :
    w.fileFor? s name below = some r ∨ w.moduleFor? s name = some r := by
  have heq := Except.ok.inj ((resolve_eq hname hbelow).symm.trans hr)
  cases hfor : (w.fileFor? s name below).or (w.moduleFor? s name) with
  | some r' =>
    rw [hfor] at heq
    obtain rfl : r' = r := Resolution.found.inj heq
    exact (Option.or_eq_some_iff.mp hfor).imp id And.right
  | none =>
    rw [hfor] at heq
    cases heq

/-- What a name is resolved to is its file, if it is not from a package. -/
theorem fileFor?_of_resolve (hname : name ≠ "")
    (hbelow : w.tree.resolve w.cwd (w.pathBelow s name) = .ok below)
    (hr : w.resolve s name = .ok (.found r)) (hstrategy : r.strategy ≠ .package) :
    w.fileFor? s name below = some r :=
  (found_cases hname hbelow hr).resolve_right fun h => hstrategy (moduleFor?_cases h).1

/-- There is a file for a name exactly if one of its files exists. -/
theorem fileFor?_eq_none_iff : w.fileFor? s name below = none ↔ ¬ w.HasFile s name below := by
  have hbundled : w.bundledFile? s name = none ↔
      ¬ ∃ p ∈ s.bundledCandidates name, p.parent = s.bundled ∧ w.isFile p = true := by
    rw [bundledFile?, List.find?_eq_none]
    simp
  rw [HasFile, not_or, not_or, ← hbundled, fileFor?]
  cases w.isFile (.ofText name) <;> cases w.isFile below <;> simp

/-- **The file of a name** depends on which of its files exist. -/
theorem fileFor?_congr (hgiven : w.isFile (.ofText name) = w'.isFile (.ofText name))
    (hfile : w.isFile below = w'.isFile below)
    (hbundled : ∀ p ∈ s.bundledCandidates name, p.parent = s.bundled → w.isFile p = w'.isFile p) :
    w.fileFor? s name below = w'.fileFor? s name below := by
  have hsame : w.bundledFile? s name = w'.bundledFile? s name := by
    refine List.find?_congr fun p hp => ?_
    by_cases hparent : p.parent = s.bundled
    · rw [hbundled p hp hparent]
    · rw [beq_eq_false_iff_ne.mpr hparent, Bool.false_and, Bool.false_and]
  rw [fileFor?, fileFor?, hgiven, hfile, hsame]

/-! ## Priorities -/

/-- **What a name is resolved to**, in two workspaces where the path below the working directory can
be resolved.  A file that the name stands for exists and is no module; it is the name as a path, the
path below the working directory, or a file right in the directory of the bundled ones that is named
with one of their suffixes.  Workspaces with the same files for the name resolve it in the same way
if there is one, whatever their modules are.  If there is none, the package of the name is taken,
and then the module of the same name. -/
theorem resolve_priority (hname : name ≠ "")
    (hbelow : w.tree.resolve w.cwd (w.pathBelow s name) = .ok below)
    (hbelow' : w'.tree.resolve w'.cwd (w'.pathBelow s name) = .ok below') :
    (∃ resolution, w.resolve s name = .ok resolution) ∧
      (∀ r, w.resolve s name = .ok (.found r) → r.strategy ≠ .package →
        w.isFile r.path = true ∧ r.moduleName = none ∧
          (r.strategy = .file → r.path = .ofText name) ∧
          (r.strategy = .cwd → r.path = below) ∧
          (r.strategy = .bundled → r.path.parent = s.bundled ∧
            ∃ suffix ∈ [s.primarySuffix, s.compiledSuffix],
              r.path = s.bundled.append (.ofText (name ++ suffix)) ∧
                (IsSuffix suffix → suffix.toList <:+ r.path.name.toList))) ∧
      (below = below' → w.isFile (.ofText name) = w'.isFile (.ofText name) →
        w.isFile below = w'.isFile below →
        (∀ p ∈ s.bundledCandidates name, p.parent = s.bundled → w.isFile p = w'.isFile p) →
        w.HasFile s name below → w.resolve s name = w'.resolve s name) ∧
      (¬ w.HasFile s name below →
        (∀ origin, w.origin? (s.packageName name) = some origin → w.resolve s name =
          .ok (.found ⟨name, origin, .package, some (s.packageName name)⟩)) ∧
        (∀ origin, w.origin? (s.packageName name) = none → w.origin? name = some origin →
          w.resolve s name = .ok (.found ⟨name, origin, .package, some name⟩)) ∧
        (w.origin? (s.packageName name) = none → w.origin? name = none →
          w.resolve s name = .ok (.notFound name))) := by
  have heq := resolve_eq hname hbelow
  refine ⟨⟨_, heq⟩, fun r hr hstrategy => ?_, ?_, fun hnone => ?_⟩
  · obtain ⟨hmodule, hexists, hcases⟩ :=
      fileFor?_cases (fileFor?_of_resolve hname hbelow hr hstrategy)
    refine ⟨hexists, hmodule, ?_⟩
    rcases hcases with ⟨h, hpath⟩ | ⟨h, hpath⟩ | ⟨h, hpath, hparent⟩ <;>
      simp only [h, reduceCtorEq, false_implies, true_implies, true_and, and_true]
    · exact hpath
    · exact hpath
    · obtain ⟨suffix, hsuffix, hpath⟩ := List.mem_map.mp hpath
      refine ⟨hparent, suffix, hsuffix, hpath.symm, fun hname => ?_⟩
      rw [← hpath]
      exact Path.suffix_name_append hname s.bundled
  · rintro rfl hgiven hfile hbundled hhas
    have hsome : w.fileFor? s name below ≠ none := fun hnone =>
      fileFor?_eq_none_iff.mp hnone hhas
    obtain ⟨r, hr⟩ := Option.ne_none_iff_exists'.mp hsome
    rw [heq, resolve_eq hname hbelow', ← fileFor?_congr hgiven hfile hbundled, hr, Option.some_or,
      Option.some_or]
  · rw [fileFor?_eq_none_iff.mpr hnone, Option.none_or, moduleFor?] at heq
    refine ⟨fun origin h => ?_, fun origin h h' => ?_, fun h h' => ?_⟩
    · simpa only [h, Option.elim_some] using heq
    · simpa only [h, h', Option.elim_some] using heq
    · simpa only [h, h', Option.elim_none] using heq

/-- A workspace with a bundled extension, and a module of the same name on the import path. -/
def shelf : Workspace where
  tree := .directory
    [("b", .directory [("t.py", .file (.bytes []))]), ("t.py", .file (.bytes []))]
  cwd := []
  importPath := [.top]
  modules := []
  executed := []
  log := []

/-- Where the bundled extension of the shelf is looked for. -/
def shelfSearch : Search := { bundled := ⟨.absolute, ["b"]⟩, packagePrefix := "p-", cwd := none }

/-- The shelf without an import path, where a package of the extension has been imported. -/
def shelfImported : Workspace :=
  { shelf with importPath := [], modules := [("p_t", ⟨some ⟨.absolute, ["t.py"]⟩, none, []⟩)] }

/-- Modules do not get in the way of the bundled extension, which has the name of a bundled file. -/
theorem resolve_priority_shelf :
    shelf.HasFile shelfSearch "t" ⟨.absolute, ["t"]⟩ ∧
      shelf.resolve shelfSearch "t" = shelfImported.resolve shelfSearch "t" ∧
      ∀ r, shelf.resolve shelfSearch "t" = .ok (.found r) → r.strategy = .bundled →
        r.path.parent = ⟨.absolute, ["b"]⟩ ∧
          ∃ suffix ∈ [".py", ".pyc"], suffix.toList <:+ r.path.name.toList := by
  have hbelow : shelf.tree.resolve shelf.cwd (shelf.pathBelow shelfSearch "t") =
      .ok ⟨.absolute, ["t"]⟩ := by cbv
  have hbelow' : shelfImported.tree.resolve shelfImported.cwd
      (shelfImported.pathBelow shelfSearch "t") = .ok ⟨.absolute, ["t"]⟩ := hbelow
  have hhas : shelf.HasFile shelfSearch "t" ⟨.absolute, ["t"]⟩ :=
    Or.inr (Or.inr ⟨⟨.absolute, ["b", "t.py"]⟩, by decide, by decide, by cbv⟩)
  obtain ⟨-, hfile, hsame, -⟩ := resolve_priority (by decide) hbelow hbelow'
  refine ⟨hhas, hsame rfl rfl rfl (fun _ _ _ => rfl) hhas, fun r hr hbundled => ?_⟩
  obtain ⟨-, -, -, -, hshape⟩ := hfile r hr (by rw [hbundled]; decide)
  obtain ⟨hparent, suffix, hsuffix, -, hname⟩ := hshape hbundled
  refine ⟨hparent, suffix, hsuffix, hname ?_⟩
  rcases List.mem_pair.mp hsuffix with rfl | rfl
  · exact isSuffix_source
  · exact isSuffix_compiled

/-! ## When resolving fails -/

/-- A text with a null character in it is read as a path with one in a name. -/
theorem hasNull_ofText_of_mem (h : '\x00' ∈ name.toList) : hasNull (.ofText name) = true := by
  obtain ⟨part, hpart, hmem⟩ := Text.exists_mem_splitOn (by decide : '\x00' ≠ '/') h
  have hname : String.ofList part ∈ (Path.ofText name).names := by
    refine List.mem_filter.mpr ⟨List.mem_map.mpr ⟨part, List.mem_filter.mpr ⟨hpart, ?_⟩, rfl⟩, ?_⟩
    · simpa using List.ne_nil_of_mem hmem
    · refine decide_eq_true fun hdot => ?_
      have hdot : part = ['.'] := by simpa using congrArg String.toList hdot
      simp [hdot] at hmem
  exact List.any_eq_true.mpr ⟨_, hname, by simpa using hmem⟩

/-- A path below another one has the names that it is read with. -/
theorem hasNull_append (q : Path) (h : hasNull p = true) : hasNull (q.append p) = true := by
  obtain ⟨n, hn, hnull⟩ := List.any_eq_true.mp h
  refine List.any_eq_true.mpr ⟨n, ?_, hnull⟩
  rw [Path.append]
  split
  · exact hn
  · exact List.mem_append_right _ hn

/-- A name is not resolved where the path below the working directory is not. -/
theorem resolve_eq_error_iff {e : Failure} :
    w.resolve s name = .error e ↔ name ≠ "" ∧ w.isFile (.ofText name) = false ∧
      w.tree.resolve w.cwd (w.pathBelow s name) = .error e := by
  by_cases hname : name = ""
  · simp [resolve, hname]
  cases hbelow : w.tree.resolve w.cwd (w.pathBelow s name) with
  | ok below =>
    rw [resolve_eq hname hbelow]
    simp
  | error e' =>
    rw [pathBelow] at hbelow
    rw [resolve, if_neg hname]
    cases hgiven : w.isFile (.ofText name) <;> simp [hname, hgiven, hbelow]

/-- A name that is resolved, and not as a path, has a path below the working directory. -/
theorem exists_below_of_resolve (hr : w.resolve s name = .ok (.found r)) (hname : name ≠ "")
    (hstrategy : r.strategy ≠ .file) :
    ∃ below, w.tree.resolve w.cwd (w.pathBelow s name) = .ok below := by
  cases hbelow : w.tree.resolve w.cwd (w.pathBelow s name) with
  | ok below => exact ⟨below, rfl⟩
  | error e =>
    cases hgiven : w.isFile (.ofText name) with
    | true =>
      rw [resolve, if_neg hname] at hr
      simp only [hgiven, if_true] at hr
      cases hr
      exact absurd rfl hstrategy
    | false => cases (resolve_eq_error_iff.mpr ⟨hname, hgiven, hbelow⟩).symm.trans hr

/-- **When a name is not resolved.**  It is not exactly if no file has the name as its path, and the
path below the working directory has a null character in it or is resolved to one that leads through
too many links.  Links that come to an end never are too many.  A name with a null character in it
is never resolved. -/
theorem resolve_fails (h : Stands w.tree w.cwd) (s : Search) (name : String) :
    (∀ e, w.resolve s name = .error e ↔ name ≠ "" ∧ w.isFile (.ofText name) = false ∧
      (hasNull (w.pathBelow s name) = true ∧ e = .value .badValue ∨
        hasNull (w.pathBelow s name) = false ∧ e = .linkLoop ∧
          w.tree.openPath w.cwd ⟨.absolute, w.tree.locate w.cwd (w.pathBelow s name)⟩ =
            .error .tooManyLinks)) ∧
      (w.resolve s name = .error .linkLoop → ∀ n loc, ¬ Leads w.tree n
        (if (w.pathBelow s name).isAbsolute then [] else w.cwd) (w.pathBelow s name).names loc) ∧
      ('\x00' ∈ name.toList → w.resolve s name = .error (.value .badValue)) := by
  refine ⟨fun e => ?_, fun he n loc hleads => ?_, fun hmem => ?_⟩
  · rw [resolve_eq_error_iff]
    refine and_congr_right fun _ => and_congr_right fun _ => ?_
    rcases resolve_cases w.tree w.cwd (w.pathBelow s name) with
      ⟨hnull, heq⟩ | ⟨hnull, hopen, heq⟩ | ⟨hnull, hopen, heq⟩
    · simp [hnull, heq, eq_comm]
    · simp [hnull, hopen, heq, eq_comm]
    · simp [hnull, hopen, heq]
  · obtain ⟨-, -, he⟩ := resolve_eq_error_iff.mp he
    cases hnull : hasNull (w.pathBelow s name) with
    | true =>
      rw [Entry.resolve, if_pos hnull] at he
      cases he
    | false => cases he.symm.trans (resolve_of_leads (.of_stands h) hnull hleads)
  · have hgiven := hasNull_ofText_of_mem hmem
    have hnull : hasNull (w.pathBelow s name) = true := hasNull_append _ hgiven
    refine resolve_eq_error_iff.mpr ⟨?_, ?_, ?_⟩
    · rintro rfl
      cases hmem
    · rw [isFile, isFileAt, openPath_of_hasNull hgiven]
    · rw [Entry.resolve, if_pos hnull]

/-- A working directory with a link to itself. -/
def looping : Workspace where
  tree := .directory [("l", .link "l")]
  cwd := []
  importPath := []
  modules := []
  executed := []
  log := []

/-- The link to itself is not resolved, and leads nowhere. -/
theorem resolve_fails_looping :
    looping.resolve shelfSearch "l" = .error .linkLoop ∧
      ∀ n loc, ¬ Leads looping.tree n [] ["l"] loc := by
  have hloop : looping.resolve shelfSearch "l" = .error .linkLoop := by cbv
  have hbelow : looping.pathBelow shelfSearch "l" = ⟨.absolute, ["l"]⟩ := by cbv
  have hleads := (resolve_fails ⟨by decide, _, rfl⟩ shelfSearch "l").2.1 hloop
  rw [hbelow] at hleads
  exact ⟨hloop, hleads⟩

/-- **Resolving a name may fail**: on a link to itself, and on a null character. -/
theorem resolve_looping :
    looping.resolve shelfSearch "l" = .error .linkLoop ∧
      looping.resolve shelfSearch "a\x00b" = .error (.value .badValue) :=
  ⟨by cbv, by cbv⟩

end Workspace

end ProseLinter
