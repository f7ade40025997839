import ProseLinter.Proofs.Extension.Import
import ProseLinter.Proofs.Outcome

/-!
# Proofs/Extension/Agree — what an import comes to was settled at the start

Other imports and loads may come in between, and fill and change the modules that are known.  A
later workspace **agrees** with the one at the start on some names (`Workspace.Agrees`) if each of
these modules is, where it is imported, as its own import from the start would have made it, apart
from the submodules it got as attributes.  Then every import of such a module comes to the same end
as from the start (`Workspace.importUp_agrees`), and files that are loaded make no difference unless
they are known by one of these names (`Workspace.loadFile_agrees`).
-/

namespace ProseLinter

namespace Export

variable {label member key : String} {exports exports' : List (String × Export)}

theorem callableAt?_module_congr (h : exports.lookup key = exports'.lookup key) :
    (module label exports).callableAt? key = (module label exports').callableAt? key := by
  simp only [callableAt?, attributes, h]
  cases exports'.lookup key <;> rfl

/-- **The callable of a module** is under one of two of its attributes. -/
theorem normalize_module_congr (hdefault : exports.lookup "default" = exports'.lookup "default")
    (hmember : exports.lookup member = exports'.lookup member) (c : Callable) :
    (module label exports).normalize member = .ok c ↔
      (module label exports').normalize member = .ok c := by
  simp only [normalize, standsAlone, Bool.false_eq_true, if_false,
    callableAt?_module_congr hdefault, callableAt?_module_congr hmember]
  cases (module label exports').callableAt? "default" with
  | some _ => rfl
  | none =>
    cases (module label exports').callableAt? member with
    | some _ => rfl
    | none => simp only [reduceCtorEq]

end Export

namespace Workspace

variable {w v : Workspace} {names : String → Prop} {above up : List String}
  {part name key : String} {path : Path}

/-- **Two modules are alike** on some attributes: they have one shape, and these attributes. -/
structure Alike (attributes : String → Prop) (m m' : ImportedModule) : Prop where
  shape : m.shape = m'.shape
  exports : ∀ key, attributes key → m.exports.lookup key = m'.exports.lookup key

theorem Alike.refl (attributes : String → Prop) (m : ImportedModule) : Alike attributes m m :=
  ⟨rfl, fun _ _ => rfl⟩

/-- **A later workspace agrees with an earlier one** on names: what was imported is imported, and
what is imported is what its own import in the earlier one gives.  Attributes may differ where a
submodule has one of the names. -/
structure Agrees (names : String → Prop) (w v : Workspace) : Prop where
  surroundings : v.surroundings = w.surroundings
  kept : ∀ n, names n → w.isImported n = true → v.isImported n = true
  own : ∀ up, up ≠ [] → AreParts up → names (nameUp up) →
    ∀ m, v.modules.lookup (nameUp up) = some m →
      (w.importUp up).2 = .ok () ∧
        ∃ m', (w.importUp up).1.modules.lookup (nameUp up) = some m' ∧
          Alike (fun key => ¬ names (nameUp (key :: up))) m m'

theorem Agrees.refl (names : String → Prop) (w : Workspace) : Agrees names w w where
  surroundings := rfl
  kept _ _ h := h
  own
    | [], hne, _, _, _, _ => absurd rfl hne
    | part :: above, _, _, _, m, hm => by
        rw [importUp_of_isImported (isImported_iff.mpr ⟨m, hm⟩)]
        exact ⟨rfl, m, hm, .refl _ m⟩

/-- Agreement depends on the surroundings and on the modules with the names. -/
theorem Agrees.congr {v' : Workspace} (h : Agrees names w v)
    (hsurroundings : v'.surroundings = v.surroundings)
    (hmodules : ∀ n, names n → v'.modules.lookup n = v.modules.lookup n) : Agrees names w v' where
  surroundings := hsurroundings.trans h.surroundings
  kept n hn himported := by
    rw [isImported, hmodules n hn, ← isImported]
    exact h.kept n hn himported
  own up hne hparts hn m hm := h.own up hne hparts hn m ((hmodules _ hn).symm.trans hm)

/-- What is not imported later was not imported at the start. -/
theorem Agrees.isImported_eq_false (h : Agrees names w v) (hname : names name)
    (hv : v.isImported name = false) : w.isImported name = false := by
  refine Bool.eq_false_iff.mpr fun himported => ?_
  exact absurd (hv.symm.trans (h.kept name hname himported)) (by decide)

/-- The shape of a module is that which its own import gives. -/
theorem Agrees.shape?_eq (h : Agrees names w v) (hne : up ≠ []) (hparts : AreParts up)
    (hname : names (nameUp up)) (hv : v.isImported (nameUp up) = true) :
    v.shape? (nameUp up) = (w.importUp up).1.shape? (nameUp up) := by
  obtain ⟨m, hm⟩ := isImported_iff.mp hv
  obtain ⟨-, m', hm', halike⟩ := h.own up hne hparts hname m hm
  rw [shape?, shape?, hm, hm', Option.map_some, Option.map_some, halike.shape]

/-- **Adding a module** that its own import gives as well. -/
theorem Agrees.addModule (h : Agrees names w v) (hparts : AreParts (part :: above))
    (hname : names (nameUp (part :: above))) {xs : List Execution} {m m' : ImportedModule}
    (hown : (w.importUp (part :: above)).2 = .ok ())
    (hlookup : (w.importUp (part :: above)).1.modules.lookup (nameUp (part :: above)) = some m')
    (halike : Alike (fun key => ¬ names (nameUp (key :: part :: above))) m m') :
    Agrees names w ((v.ran xs).addModule above.reverse part m) where
  surroundings := h.surroundings
  kept n hn himported := by
    by_cases heq : n = nameUp (part :: above)
    · rw [heq, isImported_iff]
      exact ⟨m, lookup_addModule_self hparts (v.ran xs) m⟩
    · rw [isImported_congr (shape?_addModule_of_ne heq (v.ran xs) m)]
      exact h.kept n hn himported
  own up hne hup hn m₁ hm₁ := by
    by_cases heq : nameUp up = nameUp (part :: above)
    · obtain rfl := nameUp_inj hne (List.cons_ne_nil part above) hup hparts heq
      rw [lookup_addModule_self hparts] at hm₁
      obtain rfl := Option.some.inj hm₁
      exact ⟨hown, m', hlookup, halike⟩
    · rw [lookup_addModule_of_ne heq] at hm₁
      obtain ⟨m₀, hm₀, rfl⟩ := Option.map_eq_some_iff.mp hm₁
      obtain ⟨hok, m₂, hm₂, hold⟩ := h.own up hne hup hn m₀ hm₀
      refine ⟨hok, m₂, hm₂, ?_⟩
      split
      · next hparent =>
        -- the attribute that the parent gets is a submodule with one of the names
        obtain rfl := nameUp_inj hne hparent.1 hup (areParts_cons.mp hparts).2 hparent.2
        refine ⟨hold.shape, fun key hkey => ?_⟩
        have hother : key ≠ part := by
          rintro rfl
          exact hkey hname
        exact (lookup_insertEntry_of_ne hother _ _).trans (hold.exports key hkey)
      · exact hold

/-- Below a parent that can be imported **the same module is made** as from the start. -/
theorem Agrees.madeBelow_eq (h : Agrees names w (v.importUp above).1) (hparts : AreParts above)
    (hnames : ∀ n ∈ lineageUp above, names n) (hv : (v.importUp above).2 = .ok ()) :
    (v.importUp above).1.madeBelow part above = (w.importUp above).1.madeBelow part above := by
  refine madeBelow_congr (h.surroundings.trans (surroundings_importUp w above).symm) fun hne => ?_
  refine h.shape?_eq hne hparts ?_ (isImported_importUp hparts hne hv)
  obtain ⟨top, rest, rfl⟩ := List.exists_cons_of_ne_nil hne
  exact hnames _ (nameUp_mem_lineageUp top rest)

/-- **Imports come to the same end** as from the start, and agreement lasts. -/
theorem importUp_agrees : ∀ {up : List String}, AreParts up → (∀ n ∈ lineageUp up, names n) →
    Agrees names w v →
      (v.importUp up).2 = (w.importUp up).2 ∧ Agrees names w (v.importUp up).1
  | [], _, _, h => ⟨rfl, h⟩
  | part :: above, hparts, hnames, h => by
      have hname := hnames _ (nameUp_mem_lineageUp part above)
      cases hv : v.isImported (nameUp (part :: above)) with
      | true =>
        obtain ⟨m, hm⟩ := isImported_iff.mp hv
        rw [importUp_of_isImported hv]
        exact ⟨(h.own _ (List.cons_ne_nil part above) hparts hname m hm).1.symm, h⟩
      | false =>
        have hw := h.isImported_eq_false hname hv
        have habove := (areParts_cons.mp hparts).2
        have hfront : ∀ n ∈ lineageUp above, names n := fun n hn =>
          hnames n (lineageUp_subset (List.suffix_cons part above) hn)
        obtain ⟨hsame, hagrees⟩ := importUp_agrees habove hfront h
        cases hok : (v.importUp above).2 with
        | error cause =>
          rw [importUp_cons_of_error hv hok, importUp_cons_of_error hw (hsame.symm.trans hok)]
          exact ⟨hsame, hagrees⟩
        | ok _ =>
          -- both imports end with making the same module
          have hwcons := importUp_cons_of_ok hparts hw (hsame.symm.trans hok)
          rw [importUp_cons_of_ok hparts hv hok, hagrees.madeBelow_eq habove hfront hok]
          rcases hmade : (w.importUp above).1.madeBelow part above with ⟨xs, cause | m⟩ <;>
            simp only [hmade] at hwcons ⊢
          · exact ⟨(congrArg Prod.snd hwcons).symm, hagrees.congr rfl fun _ _ => rfl⟩
          · refine ⟨(congrArg Prod.snd hwcons).symm, hagrees.addModule hparts hname
              (congrArg Prod.snd hwcons) ?_ (.refl _ m)⟩
            rw [congrArg Prod.fst hwcons]
            exact lookup_addModule_self hparts _ m

/-! ## Loads -/

theorem lookup_forget_of_ne {other : String} (h : other ≠ name) (w : Workspace) :
    (w.forget name).modules.lookup other = w.modules.lookup other := by
  rw [forget]
  induction w.modules with
  | nil => rfl
  | cons e modules ih =>
    by_cases he : e.1 = name
    · have hother : (other == e.1) = false := by simpa [he] using h
      rw [List.filter_cons_of_neg (by simpa using he), ih, List.lookup_cons, hother]
    · rw [List.filter_cons_of_pos (by simpa using he), List.lookup_cons, List.lookup_cons, ih]

/-- **Loading the file at a path** runs its body and makes the module known, or forgets it. -/
theorem loadFile_eq {resolved : Path} (h : w.tree.resolve w.cwd path = .ok resolved) :
    w.loadFile path =
      match w.bodyAt resolved (fileModuleName resolved) with
      | (xs, .ok exports) =>
        ({ w.ran xs with
            modules := insertEntry (fileModuleName resolved)
              ⟨some resolved, fileLocations resolved, exports⟩ w.modules },
          .ok (.module (fileModuleName resolved) exports))
      | (xs, .error cause) =>
        (if loaderOf resolved = .native then w.ran xs
          else (w.ran xs).forget (fileModuleName resolved), .error cause) := by
  rw [loadFile, h]
  simp only [runFile_eq]
  rcases w.bodyAt resolved (fileModuleName resolved) with ⟨xs, cause | exports⟩ <;> rfl

/-- A path that is not resolved is not loaded, whatever is imported. -/
theorem loadFile_of_error {e : Failure} (h : w.tree.resolve w.cwd path = .error e) :
    ∃ cause, (∀ r, cause ≠ .raised r) ∧
      ∀ v : Workspace, v.surroundings = w.surroundings → v.loadFile path = (v, .error cause) := by
  cases e with
  | linkLoop =>
    refine ⟨.linkLoop (Path.text ⟨.absolute, w.tree.locate w.cwd path⟩), (fun _ h => by cases h),
      fun v hv => ?_⟩
    obtain ⟨htree, hcwd, -⟩ := surroundings_eq_iff.mp hv
    rw [loadFile, htree, hcwd, h]
  | _ =>
    refine ⟨.nullInPath, (fun _ h => by cases h), fun v hv => ?_⟩
    obtain ⟨htree, hcwd, -⟩ := surroundings_eq_iff.mp hv
    rw [loadFile, htree, hcwd, h]

/-- **Loading a file** comes to the same as from the start, and changes nothing that is known by one
of the names if the module in the file has none of them. -/
theorem loadFile_agrees
    (hapart : ∀ resolved, w.tree.resolve w.cwd path = .ok resolved →
      ¬ names (fileModuleName resolved)) (h : Agrees names w v) :
    (v.loadFile path).2 = (w.loadFile path).2 ∧ Agrees names w (v.loadFile path).1 := by
  obtain ⟨htree, hcwd, -⟩ := surroundings_eq_iff.mp h.surroundings
  cases hresolve : w.tree.resolve w.cwd path with
  | error e =>
    obtain ⟨cause, -, hload⟩ := loadFile_of_error hresolve
    rw [hload v h.surroundings, hload w rfl]
    exact ⟨rfl, h⟩
  | ok resolved =>
    have hname : ∀ n, names n → n ≠ fileModuleName resolved := fun n hn heq =>
      hapart resolved hresolve (heq ▸ hn)
    have hresolvev : v.tree.resolve v.cwd path = .ok resolved := by rw [htree, hcwd, hresolve]
    rw [loadFile_eq hresolve, loadFile_eq hresolvev, bodyAt_congr h.surroundings]
    rcases w.bodyAt resolved (fileModuleName resolved) with ⟨xs, cause | exports⟩
    · refine ⟨rfl, ?_⟩
      simp only
      split
      · exact h.congr rfl fun _ _ => rfl
      · exact h.congr rfl fun n hn => lookup_forget_of_ne (hname n hn) (v.ran xs)
    · exact ⟨rfl, h.congr rfl fun n hn => lookup_insertEntry_of_ne (hname n hn) _ _⟩

/-- The name of a module in a package. -/
def submodule (package part : String) : String := dotted (dottedParts package ++ [part])

theorem nameUp_cons_dottedParts (package part : String) :
    nameUp (part :: (dottedParts package).reverse) = submodule package part := by
  rw [nameUp, List.reverse_cons, List.reverse_reverse, submodule]

/-- **Two outcomes of importing a module are alike** on some attributes: both are the same failure,
or the exports of the same module with the same attributes. -/
inductive AlikeExports (attributes : String → Prop) :
    Except LoadCause Export → Except LoadCause Export → Prop
  | failed (cause : LoadCause) : AlikeExports attributes (.error cause) (.error cause)
  | given {name : String} {exports exports' : List (String × Export)}
      (h : ∀ key, attributes key → exports.lookup key = exports'.lookup key) :
      AlikeExports attributes (.ok (.module name exports)) (.ok (.module name exports'))

/-- **Importing a module** comes to the same as from the start. -/
theorem importModule_agrees (hnames : ∀ n ∈ lineage name, names n) (h : Agrees names w v) :
    AlikeExports (fun key => ¬ names (submodule name key)) (v.importModule name).2
        (w.importModule name).2 ∧ Agrees names w (v.importModule name).1 := by
  have hparts := areParts_up name
  have hne := up_ne_nil name
  obtain ⟨hsame, hagrees⟩ := importUp_agrees hparts hnames h
  rw [importModule, importModule]
  split
  · exact ⟨.failed _, h⟩
  · exact ⟨.failed _, h⟩
  · rcases hv : v.importUp (dottedParts name).reverse with ⟨v', cause | ⟨⟩⟩ <;>
      rcases hw : w.importUp (dottedParts name).reverse with ⟨w', cause' | ⟨⟩⟩ <;>
      rw [hv, hw] at hsame <;> rw [hv] at hagrees
    · obtain rfl := Except.error.inj hsame
      exact ⟨.failed cause, hagrees⟩
    · cases hsame
    · cases hsame
    · have himported := isImported_importUp hparts hne (congrArg Prod.snd hv)
      rw [hv, nameUp_dottedParts] at himported
      obtain ⟨m, hm⟩ := isImported_iff.mp himported
      have hname : names (nameUp (dottedParts name).reverse) := by
        rw [nameUp_dottedParts]
        exact hnames name (mem_lineage_self name)
      obtain ⟨-, m', hm', halike⟩ := hagrees.own _ hne hparts hname m (by rwa [nameUp_dottedParts])
      rw [hw, nameUp_dottedParts] at hm'
      simp only [hm, hm']
      refine ⟨.given fun key hkey => halike.exports key ?_, hagrees⟩
      rwa [nameUp_cons_dottedParts]

/-- **What loading a file gives**: a cause that no program raised, or the module that the body of
the file makes. -/
theorem loadFile_cases (w : Workspace) (path : Path) :
    (∃ cause, (∀ r, cause ≠ .raised r) ∧ (w.loadFile path).2 = .error cause) ∨
      ∃ p, (w.loadFile path).2 =
        (w.bodyAt p (fileModuleName p)).2.map (.module (fileModuleName p)) := by
  cases hresolve : w.tree.resolve w.cwd path with
  | error fault =>
    obtain ⟨cause, hcause, hload⟩ := loadFile_of_error hresolve
    exact Or.inl ⟨cause, hcause, congrArg Prod.snd (hload w rfl)⟩
  | ok resolved =>
    refine Or.inr ⟨resolved, ?_⟩
    rw [loadFile_eq hresolve]
    rcases w.bodyAt resolved (fileModuleName resolved) with ⟨xs, cause | exports⟩ <;> rfl

/-- A file that is loaded is a module. -/
theorem exists_module_of_loadFile {e : Export} (h : (w.loadFile path).2 = .ok e) :
    ∃ name exports, e = .module name exports := by
  rcases w.loadFile_cases path with ⟨cause, -, hload⟩ | ⟨p, hload⟩
  · cases hload.symm.trans h
  · obtain ⟨exports, -, rfl⟩ := map_eq_ok_iff.mp (hload.symm.trans h)
    exact ⟨_, exports, rfl⟩

/-! ## Several loads -/

/-- A module is on the way to one of the modules that are loaded. -/
def IsPassed (rs : List Resolution) (name : String) : Prop :=
  ∃ r m, Resolution.found r ∈ rs ∧ r.moduleName = some m ∧ name ∈ lineage m

/-- **Files apart**: no module that is loaded from a file goes by the name of one that is on the way
to a module of the import path. -/
def Apart (w : Workspace) (rs : List Resolution) : Prop :=
  ∀ r, Resolution.found r ∈ rs → r.moduleName = none →
    ∀ p, w.tree.resolve w.cwd r.path = .ok p → ¬ IsPassed rs (fileModuleName p)

theorem Apart.congr {rs : List Resolution} (h : Apart w rs)
    (hsurroundings : v.surroundings = w.surroundings) : Apart v rs := by
  obtain ⟨htree, hcwd, -⟩ := surroundings_eq_iff.mp hsurroundings
  rw [Apart, htree, hcwd]
  exact h

variable {rs : List Resolution} {r : Resolved} {member : String}

/-- **The module of a load** comes to the same as from the start. -/
theorem exportsOf_agrees (hapart : Apart w rs) (hr : .found r ∈ rs)
    (h : Agrees (IsPassed rs) w v) :
    AlikeExports (fun key => ∀ m, r.moduleName = some m → ¬ IsPassed rs (submodule m key))
        (v.exportsOf r).2 (w.exportsOf r).2 ∧ Agrees (IsPassed rs) w (v.exportsOf r).1 := by
  rw [exportsOf, exportsOf]
  cases hmodule : r.moduleName with
  | none =>
    obtain ⟨hsame, hagrees⟩ := loadFile_agrees (hapart r hr hmodule) h
    simp only
    rw [hsame]
    refine ⟨?_, hagrees⟩
    cases hload : (w.loadFile r.path).2 with
    | error cause => exact .failed cause
    | ok e =>
      obtain ⟨name, exports, rfl⟩ := exists_module_of_loadFile hload
      exact .given fun _ _ => rfl
  | some m =>
    obtain ⟨halike, hagrees⟩ := importModule_agrees (fun n hn => ⟨r, m, hr, hmodule, hn⟩) h
    simp only [Option.some.injEq, forall_eq']
    exact ⟨halike, hagrees⟩

theorem load_agrees (hapart : Apart w rs) (hr : .found r ∈ rs)
    (h : Agrees (IsPassed rs) w v) : Agrees (IsPassed rs) w (v.load member (.found r)).1 := by
  rw [load_found]
  exact (exportsOf_agrees hapart hr h).2

/-- **An extension is loaded as from the start** if no other load brings in a submodule that takes
the place of its callable. -/
theorem attempt_agrees (hapart : Apart w rs) (hr : .found r ∈ rs) (h : Agrees (IsPassed rs) w v)
    (hfree : ∀ m, r.moduleName = some m → ∀ key ∈ ["default", member],
      ¬ IsPassed rs (submodule m key)) (e : Extension) :
    v.attempt member (.found r) = .ok e ↔ w.attempt member (.found r) = .ok e := by
  have halike := (exportsOf_agrees hapart hr h).1
  rw [attempt, attempt]
  generalize (v.exportsOf r).2 = x at halike
  generalize (w.exportsOf r).2 = y at halike
  cases halike with
  | failed cause => rfl
  | @given label exports exports' hsame =>
    have hkey : ∀ key ∈ ["default", member], exports.lookup key = exports'.lookup key :=
      fun key hkey => hsame key fun m hm => hfree m hm key hkey
    have hnormal : ∀ c, (Export.module label exports).normalize member = .ok c ↔
        (Export.module label exports').normalize member = .ok c :=
      Export.normalize_module_congr (hkey "default" (by simp)) (hkey member (by simp))
    simp only [bind_eq_ok_iff, Except.ok.injEq, exists_eq_left', hnormal]

end Workspace

end ProseLinter
