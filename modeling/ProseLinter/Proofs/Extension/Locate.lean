import ProseLinter.Proofs.Extension.Cause
import ProseLinter.Proofs.Extension.Resolve
import ProseLinter.Proofs.FileTree.LinkFree
import ProseLinter.Proofs.Work

/-!
# Proofs/Extension/Locate — where a module is found is where it is imported from

Finding a module goes from directory to directory and runs nothing; importing it runs the bodies of
its parents on the way.  Where nothing on the way is imported yet, both come by the same files: the
main statement, `Workspace.locate_then_load`, tells the bodies that loading a module runs from where
the modules on the way are found.
-/

namespace ProseLinter

namespace Workspace

variable {w v : Workspace} {above up : List String} {part name : String} {found : Found}
  {directories : List Path} {s : Search} {r : Resolved} {member : String}

/-! ## Finding along a dotted name -/

/-- **Where the module with the given parts is found**, the last part first, as long as no module on
the way is imported.  The import path stands at the top like a plain directory. -/
def findUp (w : Workspace) : List String → Option Found
  | [] => some ⟨none, some w.importPath⟩
  | part :: above =>
    ((w.findUp above).bind (·.locations)).bind fun directories => w.findIn directories part

/-- Finding goes on below what has been found. -/
theorem findBelow_findUp : ∀ names up : List String,
    w.findBelow (w.findUp up) names = w.findUp (names.reverse ++ up)
  | [], up => by rw [List.reverse_nil, List.nil_append, findBelow]
  | name :: rest, up => by
      have hrest := findBelow_findUp rest (name :: up)
      rw [List.reverse_cons, List.append_assoc, List.singleton_append, ← hrest, findUp]
      rcases w.findUp up with _ | ⟨origin, _ | directories⟩
      · cases rest <;> rfl
      · cases rest <;> rfl
      · rfl

theorem nameUp_singleton (part : String) : nameUp [part] = part := String.ofList_toList

/-- **A module is found** part by part, where no module on the way is imported. -/
theorem find_eq_findUp (hnew : ∀ n ∈ lineage name, w.isImported n = false)
    (hparts : (dottedParts name).all (fun part => Text.isIdentifier part.toList) = true) :
    w.find name = w.findUp (dottedParts name).reverse := by
  obtain ⟨top, rest, hsplit⟩ := List.exists_cons_of_ne_nil (dottedParts_ne_nil name)
  have htop : w.isImported top = false := by
    refine hnew top (mem_lineageUp_iff.mpr ⟨top, [], ?_, (nameUp_singleton top).symm⟩)
    rw [hsplit, List.reverse_cons]
    exact List.suffix_append _ _
  have hfindTop : w.findTop top = w.findUp [top] := by
    rw [findTop, isImported_eq_false_iff.mp htop]
    rfl
  rw [find, hparts, hsplit]
  simp only [if_true]
  rw [hfindTop, findBelow_findUp, List.reverse_cons]

/-- What is found has a file only for a part of its name that is an identifier. -/
theorem isIdentifier_of_origin? {origin : Path} (h : w.origin? name = some origin) :
    (dottedParts name).all (fun part => Text.isIdentifier part.toList) = true := by
  by_contra hparts
  rw [origin?, find, if_neg hparts] at h
  cases h

/-- Where no module on the way is imported, the file of a module is found part by part. -/
theorem origin?_eq_findUp (hnew : ∀ n ∈ lineage name, w.isImported n = false)
    (hparts : (dottedParts name).all (fun part => Text.isIdentifier part.toList) = true) :
    w.origin? name = (w.findUp (dottedParts name).reverse).bind (·.origin) := by
  rw [origin?, find_eq_findUp hnew hparts]

/-- Below a module that is found, its parent is found, and has locations. -/
theorem findUp_cons_eq_some_iff : w.findUp (part :: above) = some found ↔
    ∃ parent directories, w.findUp above = some parent ∧ parent.locations = some directories ∧
      w.findIn directories part = some found := by
  rw [findUp, Option.bind_eq_some_iff]
  constructor
  · rintro ⟨directories, hbind, hfind⟩
    obtain ⟨parent, hparent, hlocations⟩ := Option.bind_eq_some_iff.mp hbind
    exact ⟨parent, directories, hparent, hlocations, hfind⟩
  · rintro ⟨parent, directories, hparent, hlocations, hfind⟩
    exact ⟨directories, Option.bind_eq_some_iff.mpr ⟨parent, hparent, hlocations⟩, hfind⟩

/-! ## What an offer is -/

/-- **A file of a package** with the given name. -/
def IsPackageFile (name : String) (path : Path) : Prop :=
  ∃ directory : Path, ∃ suffix ∈ [sourceSuffix, compiledSuffix],
    path = (directory.child name).child (packageFile ++ suffix)

/-- What is found has a file that exists, if it has one, and then it has locations exactly if this
is a file of a package. -/
theorem findIn_origin {origin : Path} (h : w.findIn directories part = some found)
    (horigin : found.origin = some origin) :
    w.isFile origin = true ∧ (found.locations ≠ none → IsPackageFile part origin) := by
  rw [findIn] at h
  cases hoffer : directories.findSome? fun d => w.offer? d part with
  | none =>
    simp only [hoffer] at h
    split at h
    · cases h
    · obtain rfl := Option.some.inj h
      cases horigin
  | some offer =>
    simp only [hoffer] at h
    obtain rfl := Option.some.inj h
    obtain ⟨directory, -, hd⟩ := List.exists_of_findSome?_eq_some hoffer
    rw [offer?] at hd
    obtain ⟨c, hc, rfl⟩ := Option.map_eq_some_iff.mp hd
    have hfile := List.find?_some hc
    have hmem := List.mem_of_find?_eq_some hc
    obtain rfl := Option.some.inj horigin
    refine ⟨hfile, fun hlocations => ?_⟩
    simp only [List.mem_cons, List.not_mem_nil, or_false] at hmem
    rcases hmem with rfl | rfl | rfl | rfl
    · exact ⟨directory, sourceSuffix, List.mem_cons_self, rfl⟩
    · exact ⟨directory, compiledSuffix, by simp, rfl⟩
    · exact absurd rfl hlocations
    · exact absurd rfl hlocations

/-- The file of a module that is found can be read. -/
theorem isFile_of_findUp {origin : Path} (h : w.findUp (part :: above) = some found)
    (horigin : found.origin = some origin) : w.isFile origin = true := by
  obtain ⟨parent, directories, -, -, hfind⟩ := findUp_cons_eq_some_iff.mp h
  exact (findIn_origin hfind horigin).1

/-! ## Bodies in turn -/

/-- The modules on the way that have a file, with their files. -/
def bodiesUp (w : Workspace) : List String → List (String × Path)
  | [] => []
  | part :: above =>
    w.bodiesUp above ++
      (((w.findUp (part :: above)).bind (·.origin)).map (nameUp (part :: above), ·)).toList

/-- **The bodies on the way** to a module: the modules on the way that are found with a file, and
their files. -/
def bodies (w : Workspace) (name : String) : List (String × Path) :=
  (lineage name).filterMap fun n => (w.origin? n).map (n, ·)

/-- **Running bodies in turn**: each body runs if it compiles, and the first that does not come to
its end is the last one. -/
def runInTurn (w : Workspace) : List (String × Path) → List Execution × Except LoadCause Unit
  | [] => ([], .ok ())
  | (name, path) :: rest =>
    match w.bodyAt path name with
    | (xs, .error cause) => (xs, .error cause)
    | (xs, .ok _) => (xs ++ (w.runInTurn rest).1, (w.runInTurn rest).2)

/-- Bodies in turn, and then others. -/
theorem runInTurn_append (bs cs : List (String × Path)) :
    w.runInTurn (bs ++ cs) =
      match w.runInTurn bs with
      | (xs, .error cause) => (xs, .error cause)
      | (xs, .ok ()) => (xs ++ (w.runInTurn cs).1, (w.runInTurn cs).2) := by
  induction bs with
  | nil => simp [runInTurn]
  | cons b bs ih =>
    obtain ⟨name, path⟩ := b
    rw [List.cons_append, runInTurn, runInTurn, ih]
    rcases w.bodyAt path name with ⟨xs, cause | exports⟩
    · rfl
    · rcases w.runInTurn bs with ⟨ys, cause | ⟨⟩⟩ <;> simp

/-- One body in turn is that body. -/
theorem runInTurn_singleton (name : String) (path : Path) :
    w.runInTurn [(name, path)] =
      ((w.bodyAt path name).1, (w.bodyAt path name).2.map fun _ => ()) := by
  rw [runInTurn]
  rcases w.bodyAt path name with ⟨xs, cause | exports⟩ <;> simp [runInTurn, Except.map]

/-- **A module that is found** is made by its body in turn, if it has one. -/
theorem made_some (w : Workspace) (name : String) (found : Found) :
    (w.made name (some found)).1 = (w.runInTurn (found.origin.map (name, ·)).toList).1 ∧
      ((w.made name (some found)).2.map fun _ => ()) =
        (w.runInTurn (found.origin.map (name, ·)).toList).2 ∧
      ∀ m, (w.made name (some found)).2 = .ok m → m.shape = (found.origin, found.locations) ∧
        ∀ origin, found.origin = some origin → (w.bodyAt origin name).2 = .ok m.exports := by
  obtain ⟨_ | origin, locations⟩ := found
  · refine ⟨rfl, rfl, fun m hm => ?_⟩
    obtain rfl := Except.ok.inj hm
    exact ⟨rfl, fun origin horigin => by cases horigin⟩
  · simp only [made, Option.map_some, Option.toList_some, runInTurn_singleton]
    cases hbody : (w.bodyAt origin name).2 with
    | error cause => exact ⟨trivial, rfl, fun m hm => by cases hm⟩
    | ok exports =>
      refine ⟨trivial, rfl, fun m hm => ?_⟩
      obtain rfl := Except.ok.inj hm
      exact ⟨rfl, fun _ horigin => Option.some.inj horigin ▸ hbody⟩

/-! ## Importing by the same files -/

/-- Where a part is found below a parent that was imported from where it is found. -/
theorem located?_of_findUp (hsurroundings : v.surroundings = w.surroundings) {parent : Found}
    (hparent : w.findUp above = some parent) (hlocations : parent.locations = some directories)
    (hshape : above ≠ [] → v.shape? (nameUp above) = some (parent.origin, parent.locations)) :
    v.located? part above = w.findIn directories part := by
  have hfind : v.searchPath above.reverse = some directories := by
    cases above with
    | nil =>
      obtain rfl := Option.some.inj hparent
      rw [← hlocations, ← (surroundings_eq_iff.mp hsurroundings).2.2]
      rfl
    | cons last front =>
      obtain ⟨m, hm, hmshape⟩ := Option.map_eq_some_iff.mp (hshape (List.cons_ne_nil last front))
      obtain ⟨horigin, hmlocations⟩ := Prod.mk.inj hmshape
      rw [nameUp] at hm
      obtain ⟨top, rest, hrev⟩ := List.exists_cons_of_ne_nil
        (mt List.reverse_eq_nil_iff.mp (List.cons_ne_nil last front))
      rw [hrev] at hm ⊢
      simp only [searchPath, hm]
      split
      · next hlength =>
        -- a plain directory at the top is looked up anew, and found as before
        obtain rfl : rest = [] := List.length_eq_zero_iff.mp (Nat.succ.inj hlength)
        have hup : last :: front = [top] := by
          rw [← List.reverse_reverse (last :: front), hrev]
          rfl
        rw [hup, findUp] at hparent
        rw [locationsOf, horigin, hmlocations, hlocations]
        cases ho : parent.origin with
        | some origin => rfl
        | none =>
          have hsame : v.findIn v.importPath (dotted [top]) = some parent := by
            rw [findIn_congr hsurroundings, (surroundings_eq_iff.mp hsurroundings).2.2,
              show dotted [top] = top from String.ofList_toList]
            exact hparent
          simp only [hsame]
          obtain ⟨origin, locations⟩ := parent
          simp only at ho hlocations
          rw [ho, hlocations]
      · rw [hmlocations, hlocations]
  rw [located?, hfind, Option.bind_some, findIn_congr hsurroundings]

/-- **Importing runs the bodies on the way in turn**, where no module on the way is imported, and
the module is that of the file which is found. -/
theorem importUp_inTurn : ∀ {up : List String}, AreParts up →
    (∀ n ∈ lineageUp up, w.isImported n = false) → ∀ {found : Found}, w.findUp up = some found →
      (w.importUp up).1.executed = w.executed ++ (w.runInTurn (w.bodiesUp up)).1 ∧
        (w.importUp up).2 = (w.runInTurn (w.bodiesUp up)).2 ∧
        ((w.importUp up).2 = .ok () → up ≠ [] →
          ∃ m, (w.importUp up).1.modules.lookup (nameUp up) = some m ∧
            m.shape = (found.origin, found.locations) ∧
            ∀ origin, found.origin = some origin →
              (w.bodyAt origin (nameUp up)).2 = .ok m.exports)
  | [], _, _, _, _ => ⟨by simp [importUp, bodiesUp, runInTurn], rfl, fun _ hne => absurd rfl hne⟩
  | part :: above, hparts, hnew, found, hfound => by
      have habove := (areParts_cons.mp hparts).2
      obtain ⟨parent, directories, hparent, hlocations, hfind⟩ := findUp_cons_eq_some_iff.mp hfound
      have hself := hnew _ (nameUp_mem_lineageUp part above)
      obtain ⟨hexecuted, hresult, himported⟩ := importUp_inTurn habove
        (fun n hn => hnew n (lineageUp_subset (List.suffix_cons part above) hn)) hparent
      rw [bodiesUp, hfound, runInTurn_append]
      cases hok : (w.importUp above).2 with
      | error cause =>
        rw [importUp_cons_of_error hself hok]
        rw [hok] at hresult
        rcases hturn : w.runInTurn (w.bodiesUp above) with ⟨xs, cause' | ⟨⟩⟩ <;>
          rw [hturn] at hexecuted hresult
        · exact ⟨hexecuted, hok.trans hresult, fun hsucceeds => by cases hok.symm.trans hsucceeds⟩
        · cases hresult
      | ok _ =>
        have hsurroundings := surroundings_importUp w above
        have hmade : (w.importUp above).1.madeBelow part above =
            w.made (nameUp (part :: above)) (some found) := by
          rw [madeBelow, made_congr hsurroundings, located?_of_findUp hsurroundings hparent hlocations,
            hfind]
          intro hne
          obtain ⟨m, hm, hshape, -⟩ := himported hok hne
          rw [shape?, hm, Option.map_some, hshape]
        rw [importUp_cons_of_ok hparts hself hok, hmade]
        rw [hok] at hresult
        rcases hturn : w.runInTurn (w.bodiesUp above) with ⟨xs, cause' | ⟨⟩⟩ <;>
          rw [hturn] at hexecuted hresult
        · cases hresult
        · obtain ⟨hran, hends, hmodule⟩ := made_some w (nameUp (part :: above)) found
          simp only [Option.bind_some, ← hran, ← hends]
          rcases hrun : w.made (nameUp (part :: above)) (some found) with ⟨ys, cause | m⟩ <;>
            rw [hrun] at hmodule <;> simp only
          · exact ⟨by rw [ran, hexecuted, List.append_assoc], rfl, fun hok => by cases hok⟩
          · obtain ⟨hshape, hexports⟩ := hmodule m rfl
            exact ⟨by rw [executed_addModule, ran, hexecuted, List.append_assoc], rfl, fun _ _ =>
              ⟨m, lookup_addModule_self hparts _ m, hshape, hexports⟩⟩

/-! ## The bodies on the way -/

/-- Up to a package there are files of packages only. -/
theorem isPackageFile_of_mem_bodiesUp {b : String × Path} : ∀ {up : List String} {found : Found},
    w.findUp up = some found → found.locations ≠ none → b ∈ w.bodiesUp up →
      ∃ part above, part :: above <:+ up ∧ b.1 = nameUp (part :: above) ∧ IsPackageFile part b.2
  | [], _, _, _, hb => absurd hb List.not_mem_nil
  | part :: above, found, hfound, hlocations, hb => by
      obtain ⟨parent, directories, hparent, hdirectories, hfind⟩ := findUp_cons_eq_some_iff.mp hfound
      rw [bodiesUp, hfound] at hb
      rcases List.mem_append.mp hb with hb | hb
      · have hpackage : parent.locations ≠ none := fun hnone => by cases hnone.symm.trans hdirectories
        obtain ⟨p, a, hsuffix, hrest⟩ := isPackageFile_of_mem_bodiesUp hparent hpackage hb
        exact ⟨p, a, hsuffix.trans (List.suffix_cons part above), hrest⟩
      · obtain ⟨origin, horigin, rfl⟩ := Option.map_eq_some_iff.mp (Option.mem_toList.mp hb)
        exact ⟨part, above, List.suffix_rfl, rfl, (findIn_origin hfind horigin).2 hlocations⟩

/-- The bodies on the way are in files that exist. -/
theorem isFile_of_mem_bodiesUp {b : String × Path} : ∀ {up : List String}, b ∈ w.bodiesUp up →
    w.isFile b.2 = true
  | [], hb => absurd hb List.not_mem_nil
  | part :: above, hb => by
      rw [bodiesUp] at hb
      rcases List.mem_append.mp hb with hb | hb
      · exact isFile_of_mem_bodiesUp hb
      · obtain ⟨origin, horigin, rfl⟩ := Option.map_eq_some_iff.mp (Option.mem_toList.mp hb)
        obtain ⟨found, hfound, horigin⟩ := Option.bind_eq_some_iff.mp horigin
        exact isFile_of_findUp hfound horigin

/-- **The bodies on the way** are told part by part, where no module on the way is imported. -/
theorem bodies_eq_bodiesUp (hnew : ∀ n ∈ lineage name, w.isImported n = false)
    (hidentifiers : (dottedParts name).all (fun part => Text.isIdentifier part.toList) = true) :
    w.bodies name = w.bodiesUp (dottedParts name).reverse := by
  have hgo : ∀ {up : List String}, AreParts up →
      up.all (fun part => Text.isIdentifier part.toList) = true →
      (∀ n ∈ lineageUp up, w.isImported n = false) →
      ((lineageUp up).filterMap fun n => (w.origin? n).map (n, ·)) = w.bodiesUp up := by
    intro up hparts hup hnew
    induction up with
    | nil => rfl
    | cons part above ih =>
      have hname : dottedParts (nameUp (part :: above)) = (part :: above).reverse :=
        dottedParts_dotted (mt List.reverse_eq_nil_iff.mp (List.cons_ne_nil part above))
          hparts.reverse
      have hlineage : lineage (nameUp (part :: above)) = lineageUp (part :: above) := by
        rw [lineage, hname, List.reverse_reverse]
      have hfind : w.find (nameUp (part :: above)) = w.findUp (part :: above) := by
        rw [find_eq_findUp (by rwa [hlineage]) (by rwa [hname, List.all_reverse]), hname,
          List.reverse_reverse]
      have habove := ih (areParts_cons.mp hparts).2 (Bool.and_eq_true_iff.mp hup).2 fun n hn =>
        hnew n (List.mem_append_left _ hn)
      rw [lineageUp, List.filterMap_append, bodiesUp, habove]
      refine congrArg (w.bodiesUp above ++ ·) ?_
      rw [List.filterMap_cons, origin?, hfind]
      cases (w.findUp (part :: above)).bind (·.origin) <;> rfl
  exact hgo (areParts_up name) (by rwa [List.all_reverse]) hnew

theorem findUp_congr (h : v.surroundings = w.surroundings) : ∀ up : List String,
    v.findUp up = w.findUp up
  | [] => by rw [findUp, findUp, (surroundings_eq_iff.mp h).2.2]
  | part :: above => by simp only [findUp, findUp_congr h above, findIn_congr h]

theorem bodiesUp_congr (h : v.surroundings = w.surroundings) : ∀ up : List String,
    v.bodiesUp up = w.bodiesUp up
  | [] => rfl
  | part :: above => by rw [bodiesUp, bodiesUp, bodiesUp_congr h above, findUp_congr h]

theorem runInTurn_congr (h : v.surroundings = w.surroundings) : ∀ bs : List (String × Path),
    v.runInTurn bs = w.runInTurn bs
  | [] => rfl
  | (name, path) :: rest => by
      rw [runInTurn, runInTurn, bodyAt_congr h, runInTurn_congr h rest]

/-! ## Locating and loading -/

/-- What is resolved to a package has the file of a module. -/
theorem origin?_of_resolve (hr : w.resolve s name = .ok (.found r))
    (hpackage : r.strategy = .package) :
    ∃ m, r.moduleName = some m ∧ w.origin? m = some r.path := by
  have hname : name ≠ "" := by
    rintro rfl
    cases hr
  obtain ⟨below, hbelow⟩ := exists_below_of_resolve hr hname (by rw [hpackage]; decide)
  rcases found_cases hname hbelow hr with hfile | hmodule
  · obtain ⟨-, -, hcases⟩ := fileFor?_cases hfile
    simp [hpackage] at hcases
  · exact (moduleFor?_cases hmodule).2

theorem executed_noteResolution (w : Workspace) (s : Search) (r : Resolution) :
    (w.noteResolution s r).executed = w.executed := by
  unfold noteResolution
  split <;> rfl

theorem modules_noteResolution (w : Workspace) (s : Search) (r : Resolution) :
    (w.noteResolution s r).modules = w.modules := by
  unfold noteResolution
  split <;> rfl

/-- **A cause that something cannot be found**: a module, or a file. -/
def IsMissing (cause : LoadCause) : Prop :=
  (∃ n, cause = .missingModule n) ∨ ∃ path fault, cause = .unreadable path fault

theorem exists_read_of_isFile {path : Path} (h : w.isFile path = true) :
    ∃ content, w.tree.read w.cwd path = .ok content := by
  rw [isFile, Entry.isFileAt] at h
  rw [Entry.read]
  split at h
  · next place hplace =>
    obtain ⟨location, entry, via⟩ := place
    cases entry with
    | file content => exact ⟨content, by rw [hplace]⟩
    | directory children => cases h
    | link target => cases h
  · cases h

/-- A file that exists is not missing. -/
theorem not_isMissing_of_bodyAt {path : Path} {moduleName : String} {cause : LoadCause}
    (hfile : w.isFile path = true) (h : (w.bodyAt path moduleName).2 = .error cause) :
    ¬ IsMissing cause := by
  have hprogramOf : ∀ content, programOf path moduleName content = .error cause →
      ¬ IsMissing cause := by
    intro content hcause
    unfold programOf at hcause
    repeat' split at hcause
    all_goals cases hcause
    all_goals simp [IsMissing]
  obtain ⟨content, hread⟩ := exists_read_of_isFile hfile
  rw [bodyAt] at h
  cases hprogram : w.programAt path moduleName with
  | error cause' =>
    rw [hprogram] at h
    obtain rfl := Except.error.inj h
    rw [programAt, hread] at hprogram
    split at hprogram
    · cases hprogram
      simp [IsMissing]
    · exact hprogramOf content hprogram
  | ok p =>
    simp only [hprogram] at h
    split at h <;> cases h
    simp [IsMissing]

/-- Bodies of files that exist are not missing. -/
theorem not_isMissing_of_runInTurn {cause : LoadCause} : ∀ {bs : List (String × Path)},
    (∀ b ∈ bs, w.isFile b.2 = true) → (w.runInTurn bs).2 = .error cause → ¬ IsMissing cause
  | [], _, h => nomatch h
  | (name, path) :: rest, hfiles, h => by
      rw [runInTurn] at h
      rcases hbody : w.bodyAt path name with ⟨xs, cause' | exports⟩ <;> rw [hbody] at h
      · obtain rfl := Except.error.inj h
        exact not_isMissing_of_bodyAt (hfiles _ List.mem_cons_self) (congrArg Prod.snd hbody)
      · exact not_isMissing_of_runInTurn (fun b hb => hfiles b (List.mem_cons_of_mem _ hb)) h

/-- A name whose parts are identifiers is imported part by part. -/
theorem importModule_eq (hidentifiers :
    (dottedParts name).all (fun part => Text.isIdentifier part.toList) = true) :
    w.importModule name =
      match w.importUp (dottedParts name).reverse with
      | (v, .error cause) => (v, .error cause)
      | (v, .ok ()) =>
        match v.modules.lookup name with
        | some m => (v, .ok (.module name m.exports))
        | none => (v, .error (.missingModule name)) := by
  rw [importModule]
  split
  · next hnil =>
    rw [dottedParts, hnil] at hidentifiers
    cases hidentifiers
  · next hdot =>
    rw [dottedParts, hdot] at hidentifiers
    cases hidentifiers
  · rfl

/-- An imported module exports what is known of it. -/
theorem exportsOf_of_importUp {m : String} {mod : ImportedModule} (hm : r.moduleName = some m)
    (hidentifiers : (dottedParts m).all (fun part => Text.isIdentifier part.toList) = true)
    (hok : (w.importUp (dottedParts m).reverse).2 = .ok ())
    (hlookup : (w.importUp (dottedParts m).reverse).1.modules.lookup m = some mod) :
    (w.exportsOf r).2 = .ok (.module m mod.exports) := by
  rw [exportsOf, hm]
  simp only [importModule_eq hidentifiers]
  rcases hrun : w.importUp (dottedParts m).reverse with ⟨u, cause | ⟨⟩⟩ <;> rw [hrun] at hok hlookup
  · cases hok
  · simp only [hlookup]

/-- **Loading a module that is found**, where no module on the way is imported. -/
theorem attempt_inTurn {m : String} (hsurroundings : v.surroundings = w.surroundings)
    (hmodules : v.modules = w.modules) (hnew : ∀ n ∈ lineage m, w.isImported n = false)
    (hm : r.moduleName = some m) (horigin : w.origin? m = some r.path) (member : String) :
    (v.exportsOf r).1.executed = v.executed ++ (w.runInTurn (w.bodies m)).1 ∧
      v.attempt member (.found r) = (do
        (w.runInTurn (w.bodies m)).2
        let exports ← (w.bodyAt r.path m).2
        return ⟨r.name, r.path, ← (Export.module m exports).normalize member⟩) := by
  have hidentifiers := isIdentifier_of_origin? horigin
  have hvnew : ∀ n ∈ lineage m, v.isImported n = false := fun n hn => by
    rw [isImported, hmodules]
    exact hnew n hn
  rw [origin?, find_eq_findUp hnew hidentifiers] at horigin
  obtain ⟨found, hfound, hfile⟩ := Option.bind_eq_some_iff.mp horigin
  obtain ⟨hexecuted, hresult, himported⟩ := importUp_inTurn (areParts_up m) hvnew
    ((findUp_congr hsurroundings _).trans hfound)
  rw [runInTurn_congr hsurroundings, bodiesUp_congr hsurroundings,
    ← bodies_eq_bodiesUp hnew hidentifiers] at hexecuted hresult
  rw [attempt, exportsOf, hm]
  simp only [importModule_eq hidentifiers]
  rcases hrun : v.importUp (dottedParts m).reverse with ⟨u, cause | ⟨⟩⟩ <;>
    rw [hrun] at hexecuted hresult himported <;> simp only at hexecuted hresult himported <;>
    rw [← hresult]
  · exact ⟨hexecuted, rfl⟩
  · obtain ⟨mod, hlookup, -, hexports⟩ := himported trivial (up_ne_nil m)
    rw [nameUp_dottedParts] at hlookup
    have hbody := hexports r.path hfile
    rw [nameUp_dottedParts, bodyAt_congr hsurroundings] at hbody
    simp only [hlookup, hbody]
    exact ⟨hexecuted, rfl⟩

/-- **The bodies on the way to a module that is found** are those of packages among its parents, and
then its own. -/
theorem exists_bodies_eq {m : String} {origin : Path}
    (hnew : ∀ n ∈ lineage m, w.isImported n = false) (horigin : w.origin? m = some origin) :
    ∃ parents, w.bodies m = parents ++ [(m, origin)] ∧ ∀ b ∈ parents,
      b.1 ∈ (lineage m).dropLast ∧
        ∃ front part, dottedParts b.1 = front ++ [part] ∧ IsPackageFile part b.2 := by
  have hidentifiers := isIdentifier_of_origin? horigin
  have hparts := areParts_up m
  have hm := nameUp_dottedParts m
  rw [bodies_eq_bodiesUp hnew hidentifiers, lineage]
  rw [origin?, find_eq_findUp hnew hidentifiers] at horigin
  obtain ⟨last, front, hup⟩ := List.exists_cons_of_ne_nil (up_ne_nil m)
  rw [hup] at hparts hm horigin ⊢
  obtain ⟨found, hfound, hfile⟩ := Option.bind_eq_some_iff.mp horigin
  obtain ⟨parent, directories, hparent, hdirectories, -⟩ := findUp_cons_eq_some_iff.mp hfound
  have hpackage : parent.locations ≠ none := fun hnone => by cases hnone.symm.trans hdirectories
  refine ⟨w.bodiesUp front, ?_, fun b hb => ?_⟩
  · rw [bodiesUp, hfound, Option.bind_some, hfile, hm]
    rfl
  · obtain ⟨part, above, hsuffix, hname, hfile⟩ := isPackageFile_of_mem_bodiesUp hparent hpackage hb
    have hbparts : AreParts (part :: above) := fun p hp =>
      (areParts_cons.mp hparts).2 p (hsuffix.mem hp)
    refine ⟨?_, above.reverse, part, ?_, hfile⟩
    · rw [lineageUp, List.dropLast_concat]
      exact mem_lineageUp_iff.mpr ⟨part, above, hsuffix, hname⟩
    · rw [hname, nameUp, dottedParts_dotted (mt List.reverse_eq_nil_iff.mp
        (List.cons_ne_nil part above)) hbparts.reverse, List.reverse_cons]

/-- What is resolved to a package is loaded without anything missing. -/
theorem not_isMissing_of_inTurn {m : String} {cause : LoadCause}
    (hnew : ∀ n ∈ lineage m, w.isImported n = false) (horigin : w.origin? m = some r.path)
    (h : (do
      (w.runInTurn (w.bodies m)).2
      let exports ← (w.bodyAt r.path m).2
      return (⟨r.name, r.path, ← (Export.module m exports).normalize member⟩ : Extension) :
        Except LoadCause Extension) = .error cause) : ¬ IsMissing cause := by
  have hbodies := bodies_eq_bodiesUp hnew (isIdentifier_of_origin? horigin)
  have hfiles : ∀ b ∈ w.bodies m, w.isFile b.2 = true := fun b hb =>
    isFile_of_mem_bodiesUp (hbodies ▸ hb)
  rcases bind_eq_error_iff.mp h with hturn | ⟨_, -, h⟩
  · exact not_isMissing_of_runInTurn hfiles hturn
  · rcases bind_eq_error_iff.mp h with hbody | ⟨exports, -, h⟩
    · obtain ⟨parents, heq, -⟩ := exists_bodies_eq hnew horigin
      have hmem : (m, r.path) ∈ w.bodies m := heq ▸ List.mem_append_right parents List.mem_cons_self
      exact not_isMissing_of_bodyAt (hfiles _ hmem) hbody
    · rcases bind_eq_error_iff.mp h with hnormal | ⟨c, -, h⟩
      · rcases Export.refusal_cases (.module m exports) member with ⟨label, hcause⟩ | ⟨cs, hcause⟩ <;>
          simp [IsMissing, Export.eq_refusal_of_normalize hnormal, hcause]
      · cases h

/-- **Locating a name and loading what it is located at.**  Resolving a name runs nothing, and what
is imported stays the same.  If it comes to a module of the import path, and no module on the way to
it is imported, then loading runs, in turn, the bodies of those parents that are packages with a
file, and at last the body of the file that the name was resolved to.  The first body that does not
come to its end is the last one, and its cause that of the failure; else the callable is picked from
what the last body exports.  Nothing is ever missing. -/
theorem locate_then_load {w₁ : Workspace} {result : Except Failure Resolution}
    (hresolve : (Work.resolve s name).run w = (w₁, result)) (member : String) :
    w₁.executed = w.executed ∧ w₁.modules = w.modules ∧
      ∀ r, result = .ok (.found r) → r.strategy = .package →
        (∀ m, r.moduleName = some m → ∀ n ∈ lineage m, w.isImported n = false) →
          ∃ m parents, r.moduleName = some m ∧ w.bodies m = parents ++ [(m, r.path)] ∧
            (∀ b ∈ parents, b.1 ∈ (lineage m).dropLast ∧
              ∃ front part, dottedParts b.1 = front ++ [part] ∧ IsPackageFile part b.2) ∧
            ((Family.load member (.found r)).run w₁).1.executed =
              w.executed ++ (w.runInTurn (w.bodies m)).1 ∧
            ((Family.load member (.found r)).run w₁).2 =
              (w₁.attempt member (.found r)).mapError (failureOf r.name) ∧
            w₁.attempt member (.found r) = (do
              (w.runInTurn (w.bodies m)).2
              let exports ← (w.bodyAt r.path m).2
              return ⟨r.name, r.path, ← (Export.module m exports).normalize member⟩) ∧
            ∀ cause, w₁.attempt member (.found r) = .error cause → ¬ IsMissing cause := by
  rw [Work.resolve, Work.run_ofStep] at hresolve
  cases hresolved : w.resolve s name with
  | error e =>
    rw [hresolved] at hresolve
    obtain ⟨rfl, rfl⟩ := Prod.mk.inj hresolve
    exact ⟨rfl, rfl, fun r hr => nomatch hr⟩
  | ok resolution =>
    rw [hresolved] at hresolve
    obtain ⟨rfl, rfl⟩ := Prod.mk.inj hresolve
    refine ⟨executed_noteResolution w s resolution, modules_noteResolution w s resolution,
      fun r hr hpackage hnew => ?_⟩
    obtain rfl := Except.ok.inj hr
    obtain ⟨m, hm, horigin⟩ := origin?_of_resolve hresolved hpackage
    obtain ⟨parents, hbodies, hparents⟩ := exists_bodies_eq (hnew m hm) horigin
    have hinTurn : ∀ v : Workspace, v.surroundings = w.surroundings → v.modules = w.modules → _ :=
      fun v hsurroundings hmodules =>
        attempt_inTurn hsurroundings hmodules (hnew m hm) hm horigin member
    obtain ⟨-, hattempt⟩ := hinTurn (w.noteResolution s (.found r))
      (surroundings_noteResolution w s _) (modules_noteResolution w s _)
    obtain ⟨hexecuted, hloading⟩ := hinTurn ((w.noteResolution s (.found r)).noteLoading (.found r))
      (surroundings_noteResolution w s _) (modules_noteResolution w s _)
    refine ⟨m, parents, hm, hbodies, hparents, ?_, ?_, hattempt, fun cause hcause => ?_⟩
    · rw [Family.load, Work.run_ofStep, load_found, hexecuted]
      exact congrArg (· ++ _) (executed_noteResolution w s _)
    · rw [Family.load, Work.run_ofStep, load_eq, hloading, hattempt]
      rfl
    · exact not_isMissing_of_inTurn (hnew m hm) horigin (hattempt ▸ hcause)

/-- A name without a file is resolved to the module of the same name, in a tree without links. -/
theorem resolve_eq_package {names : List String} {origin : Path} (h : w.tree.LinkFree)
    (hcwd : Entry.HasNoDots w.cwd) (hsearch : s.cwd = none) (hname : name ≠ "")
    (hpath : Path.ofText name = ⟨.relative, names⟩) (hdots : Entry.HasNoDots names)
    (hnull : Entry.hasNull ⟨.absolute, w.cwd ++ names⟩ = false)
    (hat : (w.tree.at? (w.cwd ++ names)).any Entry.isFile = false)
    (hbundled : ∀ p ∈ s.bundledCandidates name,
      IsStraight p ∧ (w.tree.at? p.names).any Entry.isFile = false)
    (hprefixed : w.origin? (s.packageName name) = none) (horigin : w.origin? name = some origin) :
    w.resolve s name = .ok (.found ⟨name, origin, .package, some name⟩) := by
  have hstraight : Entry.HasNoDots (w.cwd ++ names) := fun n hn =>
    (List.mem_append.mp hn).elim (hcwd n) (hdots n)
  have hbelow : w.tree.resolve w.cwd (w.pathBelow s name) = .ok ⟨.absolute, w.cwd ++ names⟩ := by
    rw [pathBelow, hsearch, hpath]
    exact h.resolve_eq hcwd hstraight hnull
  have hnone : ¬ w.HasFile s name ⟨.absolute, w.cwd ++ names⟩ := by
    rintro (hgiven | hfile | ⟨p, hp, -, hfile⟩)
    · rw [hpath, isFile_relative_eq_false h hdots hat] at hgiven
      cases hgiven
    · rw [isFile_eq h hstraight, hat] at hfile
      cases hfile
    · obtain ⟨⟨hroot, hnames⟩, hmissing⟩ := hbundled p hp
      obtain ⟨root, pnames⟩ := p
      obtain rfl := hroot
      rw [isFile_eq h hnames, hmissing] at hfile
      cases hfile
  rw [resolve_eq hname hbelow, fileFor?_eq_none_iff.mpr hnone, Option.none_or, moduleFor?,
    hprefixed, horigin]
  rfl

/-- A plain directory in two parts, with a package in it whose module raises. -/
def library : Workspace where
  tree := .directory
    [ ("one", .directory [("a", .directory [])]),
      ("two", .directory [("a", .directory [("b", .directory
        [ ("__init__.py", .file (.source ⟨some "b", true, none, []⟩)),
          ("c.py", .file (.source ⟨some "c", true, some ⟨"ValueError", []⟩, []⟩)) ])])]) ]
  cwd := []
  importPath := [⟨.absolute, ["one"]⟩, ⟨.absolute, ["two"]⟩]
  modules := []
  executed := []
  log := []

/-- The file of the package in the library. -/
def libraryPackage : Path := ⟨.absolute, ["two", "a", "b", "__init__.py"]⟩

/-- The file of the module in the package. -/
def libraryModule : Path := ⟨.absolute, ["two", "a", "b", "c.py"]⟩

theorem linkFree_library : library.tree.LinkFree := ⟨by decide, by decide, by decide⟩

/-- Where the modules of the library are found. -/
theorem findUp_library :
    library.findUp ["a"] =
        some ⟨none, some [⟨.absolute, ["one", "a"]⟩, ⟨.absolute, ["two", "a"]⟩]⟩ ∧
      library.findUp ["b", "a"] =
        some ⟨some libraryPackage, some [⟨.absolute, ["two", "a", "b"]⟩]⟩ ∧
      library.findUp ["c", "b", "a"] = some ⟨some libraryModule, none⟩ := by
  have hfind : ∀ {directories part}, (∀ d ∈ directories, IsStraight d) →
      part ≠ "." ∧ part ≠ ".." →
        library.findIn directories part = findAt library.tree directories part :=
    findIn_eq linkFree_library
  have ha : library.findUp ["a"] =
      some ⟨none, some [⟨.absolute, ["one", "a"]⟩, ⟨.absolute, ["two", "a"]⟩]⟩ :=
    (hfind (by decide) (by decide)).trans (by decide)
  have hb : library.findUp ["b", "a"] =
      some ⟨some libraryPackage, some [⟨.absolute, ["two", "a", "b"]⟩]⟩ := by
    rw [findUp, ha]
    exact (hfind (by decide) (by decide)).trans (by decide)
  refine ⟨ha, hb, ?_⟩
  rw [findUp, hb]
  exact (hfind (by decide) (by decide)).trans (by decide)

/-- The module is resolved by its own name. -/
theorem resolve_library : library.resolve shelfSearch "a.b.c" =
    .ok (.found ⟨"a.b.c", libraryModule, .package, some "a.b.c"⟩) := by
  have hnew : ∀ n, library.isImported n = false := fun _ => rfl
  have hprefixed : library.origin? (shelfSearch.packageName "a.b.c") = none := by
    have htop : library.findUp ["p_a"] = none :=
      (findIn_eq linkFree_library (by decide) (by decide)).trans (by decide)
    have hup : (dottedParts (shelfSearch.packageName "a.b.c")).reverse = ["c", "b", "p_a"] := by
      decide
    rw [origin?_eq_findUp (fun n _ => hnew n) (by decide), hup, findUp, findUp, htop]
    rfl
  have horigin : library.origin? "a.b.c" = some libraryModule := by
    have hup : (dottedParts "a.b.c").reverse = ["c", "b", "a"] := by decide
    rw [origin?_eq_findUp (fun n _ => hnew n) (by decide), hup, findUp_library.2.2]
    rfl
  exact resolve_eq_package linkFree_library (by decide) rfl (by decide) rfl (by decide) (by decide)
    (by decide) (by decide) hprefixed horigin

/-- What the modules on the way run: that of the plain directory has no body, and that of the module
does not come to its end. -/
theorem runInTurn_library : library.runInTurn (library.bodies "a.b.c") =
    ([⟨"a.b", libraryPackage, some "b", true⟩, ⟨"a.b.c", libraryModule, some "c", false⟩],
      .error (.raised ⟨"ValueError", []⟩)) := by
  obtain ⟨ha, hpackage, hmodule⟩ := findUp_library
  have hbodies : library.bodies "a.b.c" = [("a.b", libraryPackage), ("a.b.c", libraryModule)] := by
    have hup : (dottedParts "a.b.c").reverse = ["c", "b", "a"] := by decide
    rw [bodies_eq_bodiesUp (fun _ _ => rfl) (by decide), hup]
    simp only [bodiesUp, ha, hpackage, hmodule]
    decide
  have hfirst : library.bodyAt libraryPackage "a.b" =
      ([⟨"a.b", libraryPackage, some "b", true⟩], .ok []) := by
    have hread : library.tree.read library.cwd libraryPackage =
        .ok (.source ⟨some "b", true, none, []⟩) :=
      linkFree_library.read_eq (by decide) library.cwd rfl
    have hloader : loaderOf libraryPackage = .source := by decide
    simp [bodyAt, programAt, programOf, hread, hloader]
  have hlast : library.bodyAt libraryModule "a.b.c" =
      ([⟨"a.b.c", libraryModule, some "c", false⟩], .error (.raised ⟨"ValueError", []⟩)) := by
    have hread : library.tree.read library.cwd libraryModule =
        .ok (.source ⟨some "c", true, some ⟨"ValueError", []⟩, []⟩) :=
      linkFree_library.read_eq (by decide) library.cwd rfl
    have hloader : loaderOf libraryModule = .source := by decide
    simp [bodyAt, programAt, programOf, hread, hloader]
  rw [hbodies]
  simp only [runInTurn, hfirst, hlast]
  rfl

/-- The body of the package comes first, and that of the module does not come to its end. -/
theorem locate_then_load_library :
    ((Work.resolve shelfSearch "a.b.c").run library).2 =
        .ok (.found ⟨"a.b.c", libraryModule, .package, some "a.b.c"⟩) ∧
      (∀ n ∈ lineage "a.b.c", library.isImported n = false) ∧
      ((Family.load "create" (.found ⟨"a.b.c", libraryModule, .package, some "a.b.c"⟩)).run
          ((Work.resolve shelfSearch "a.b.c").run library).1).1.executed =
        [ ⟨"a.b", libraryPackage, some "b", true⟩, ⟨"a.b.c", libraryModule, some "c", false⟩ ] := by
  have hresolve : ((Work.resolve shelfSearch "a.b.c").run library).2 =
      .ok (.found ⟨"a.b.c", libraryModule, .package, some "a.b.c"⟩) := by
    rw [Work.resolve, Work.run_ofStep, resolve_library]
  have hnew : ∀ n ∈ lineage "a.b.c", library.isImported n = false := fun n _ => rfl
  obtain ⟨-, -, hloads⟩ := locate_then_load Prod.mk.eta.symm "create"
  obtain ⟨m, parents, hm, -, -, hexecuted, -⟩ := hloads _ hresolve rfl fun m hm => by
    obtain rfl := Option.some.inj hm
    exact hnew
  obtain rfl := Option.some.inj hm
  exact ⟨hresolve, hnew, hexecuted.trans (by rw [runInTurn_library]; rfl)⟩

end Workspace

end ProseLinter
