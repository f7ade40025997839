import Mathlib
import ProseLinter.Extension.Load

/-!
# Proofs/Extension/Load — what loading leaves alone, and what it gives

Loading an extension changes which modules are imported and which bodies have run.  The
**surroundings** of a workspace — its files, the working directory and the import path — are the
same afterwards (`Workspace.surroundings_load`).  A bundled extension is found by its name where no
file at hand has that name (`Workspace.resolve_bundled`).  A module with nothing under `default` has
the callable that it exports under the name of the family (`Export.normalize_module`), and so a file
with a program is loaded as that callable (`Workspace.load_program`).
-/

namespace ProseLinter

/-- The name that was resolved. -/
def Resolution.name : Resolution → String
  | .found r => r.name
  | .notFound name => name

namespace Export

variable {exports : List (String × Export)} {e : Export} {key member : String}

/-- A module has no method under the name of the exports that are looked for first. -/
theorem inherited?_default (label : String) (exports : List (String × Export)) :
    (module label exports).inherited? "default" = none := by
  have hmethods : "default" ∉ Value.commonMethods ++ [Value.hashMethod] := by decide +kernel
  rw [inherited?, if_neg (by decide)]
  exact if_neg (by rwa [List.contains_iff_mem])

/-- The callable of a module is its own for what it exports. -/
theorem callableAt?_module (label : String) (hkey : exports.lookup key = some e) :
    (module label exports).callableAt? key = e.callable? := by
  rw [callableAt?, attributes, hkey]

/-- **What is under the name of the family** decides for a module with nothing under `default`. -/
theorem normalize_module (label : String) (hdefault : exports.lookup "default" = none) :
    (module label exports).normalize member =
      match (module label exports).callableAt? member with
      | some c => .ok c
      | none => .error ((module label exports).refusal member) := by
  have hnone : (module label exports).callableAt? "default" = none := by
    rw [callableAt?, attributes, hdefault]
    exact inherited?_default label exports
  rw [normalize, hnone]
  rfl

end Export

namespace Workspace

variable {w : Workspace}

/-- **What a workspace has around it**: the files, the working directory and the import path. -/
def surroundings (w : Workspace) : Entry FileContent × Location × List Path :=
  (w.tree, w.cwd, w.importPath)

@[simp] theorem surroundings_note (w : Workspace) (level : LogLevel) (logger : String)
    (text : List Char) : (w.note level logger text).surroundings = w.surroundings := rfl

@[simp] theorem surroundings_noteLoading (w : Workspace) (r : Resolution) :
    (w.noteLoading r).surroundings = w.surroundings := by
  cases r <;> rfl

@[simp] theorem surroundings_noteResolution (w : Workspace) (s : Search) (r : Resolution) :
    (w.noteResolution s r).surroundings = w.surroundings := by
  unfold noteResolution
  split <;> rfl

/-! ## Loading -/

theorem surroundings_runFile (w : Workspace) (path : Path) (moduleName : String) :
    (w.runFile path moduleName).1.surroundings = w.surroundings := by
  unfold runFile
  split <;> rfl

/-- A step that keeps the surroundings leaves a workspace with the same ones. -/
theorem surroundings_of_step {α : Type} {step : Workspace × α} {w' : Workspace} {a : α}
    (hstep : step = (w', a)) (h : step.1.surroundings = w.surroundings) :
    w'.surroundings = w.surroundings := by
  rwa [hstep] at h

theorem surroundings_loadFile (w : Workspace) (path : Path) :
    (w.loadFile path).1.surroundings = w.surroundings := by
  unfold loadFile
  split
  · rfl
  · rfl
  · next resolved _ =>
    -- which modules are known is none of the surroundings
    have hran := surroundings_runFile w resolved (fileModuleName resolved)
    simp only
    split
    · next h =>
      have hkept := surroundings_of_step h hran
      exact hkept
    · next h =>
      have hkept := surroundings_of_step h hran
      split <;> exact hkept

theorem surroundings_importPart (w : Workspace) (parent : List String) (part : String) :
    (w.importPart parent part).1.surroundings = w.surroundings := by
  unfold importPart
  split
  · rfl
  · split
    · rfl
    · split
      · rfl
      -- the module that is added to the workspace is none of its surroundings
      · split <;> next hrun =>
          have hran := surroundings_of_step hrun (surroundings_runFile w _ _)
          exact hran

theorem surroundings_importUp : ∀ (w : Workspace) (up : List String),
    (w.importUp up).1.surroundings = w.surroundings
  | _, [] => rfl
  | w, part :: above => by
      have habove := surroundings_importUp w above
      rw [importUp]
      split
      · rfl
      · split
        · next h => exact (surroundings_importPart _ _ part).trans (surroundings_of_step h habove)
        · next h => exact surroundings_of_step h habove

theorem surroundings_importModule (w : Workspace) (name : String) :
    (w.importModule name).1.surroundings = w.surroundings := by
  have hparts := surroundings_importUp w (dottedParts name).reverse
  unfold importModule
  split
  · rfl
  · rfl
  · split
    · next h => exact surroundings_of_step h hparts
    · next h => split <;> exact surroundings_of_step h hparts

/-- **Loading changes no file.** -/
theorem surroundings_load (w : Workspace) (member : String) (r : Resolution) :
    (w.load member r).1.surroundings = w.surroundings := by
  cases r with
  | notFound name => rfl
  | found r =>
    have hexports : (w.exportsOf r).1.surroundings = w.surroundings := by
      unfold exportsOf
      split
      · exact surroundings_importModule w _
      · exact surroundings_loadFile w _
    rw [load]
    split
    · next h => exact surroundings_of_step h hexports
    · next h => split <;> exact surroundings_of_step h hexports

/-! ## What a load comes to -/

/-- **A load without its wrapping**: the extension, or what went wrong. -/
def attempt (w : Workspace) (member : String) : Resolution → Except LoadCause Extension
  | .notFound name => .error (.unresolved name)
  | .found r => do
    let e ← (w.exportsOf r).2
    return ⟨r.name, r.path, ← e.normalize member⟩

/-- What is found comes to the callable among its exports. -/
theorem attempt_found {r : Resolved} {e : Export} (h : (w.exportsOf r).2 = .ok e) (member : String) :
    w.attempt member (.found r) = (e.normalize member).map (⟨r.name, r.path, ·⟩) := by
  rw [attempt, h]
  cases hnormal : e.normalize member <;> simp [hnormal, bind, Except.bind, pure, Except.pure, Except.map]

/-- **What a load comes to**: the extension, or the failure of what went wrong. -/
theorem load_eq (w : Workspace) (member : String) (r : Resolution) :
    (w.load member r).2 = (w.attempt member r).mapError (failureOf r.name) := by
  cases r with
  | notFound name => rfl
  | found r =>
    rw [load, attempt]
    rcases w.exportsOf r with ⟨v, cause | e⟩
    · rfl
    · simp only [bind, Except.bind]
      cases e.normalize member <;> rfl

/-- A load leaves what its module leaves. -/
theorem load_found (w : Workspace) (member : String) (r : Resolved) :
    (w.load member (.found r)).1 = (w.exportsOf r).1 := by
  rw [load]
  rcases w.exportsOf r with ⟨v, cause | e⟩
  · rfl
  · simp only
    split <;> rfl

/-! ## Finding and loading a file -/

/-- **A bundled extension is found** by its name where no file at hand has that name. -/
theorem resolve_bundled {s : Search} {name : String} {below p : Path} (hname : name ≠ "")
    (hgiven : w.isFile (.ofText name) = false)
    (hresolve : w.tree.resolve w.cwd ((s.cwd.getD w.cwdPath).append (.ofText name)) = .ok below)
    (hbelow : w.isFile below = false) (hbundled : w.bundledFile? s name = some p) :
    w.resolve s name = .ok (.found ⟨name, p, .bundled, none⟩) := by
  simp [resolve, hname, hgiven, hresolve, hbelow, hbundled]

/-- **A file with a program is loaded** as the callable among the exports of the program, under
whatever name its module goes. -/
theorem load_program {r : Resolved} {resolved : Path} {program : Program} {member : String}
    {c : Callable} (hmodule : r.moduleName = none)
    (hresolve : w.tree.resolve w.cwd r.path = .ok resolved)
    (hread : w.tree.read w.cwd resolved = .ok (.source program))
    (hloader : loaderOf resolved = .source) (hvalid : program.isValid = true)
    (hraises : program.raises = none) (hdefault : program.exports.lookup "default" = none)
    (hmember : program.exports.lookup member = some (.callable c)) :
    (w.load member (.found r)).2 = .ok ⟨r.name, r.path, c⟩ := by
  have hprogram : w.programAt resolved (fileModuleName resolved) = .ok program := by
    rw [programAt, if_neg (by rw [hloader]; decide), hread]
    unfold programOf
    rw [hloader]
    exact if_pos hvalid
  have hnormalize : ∀ label, (Export.module label program.exports).normalize member = .ok c :=
    fun label => by
      rw [Export.normalize_module label hdefault, Export.callableAt?_module label hmember]
      rfl
  simp [load, exportsOf, hmodule, loadFile, hresolve, runFile, hprogram, runProgram, hraises,
    hnormalize]

end Workspace

end ProseLinter
