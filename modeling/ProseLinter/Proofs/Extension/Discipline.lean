import ProseLinter.Proofs.Extension.Locate
import ProseLinter.Proofs.Extension.Source

/-!
# Proofs/Extension/Discipline — which bodies run, load after load

The two ways of loading treat what they have run before in opposite ways.  A file is run by each
load of it; a module of the import path is run until its body comes to its end for the first time,
and then never again.  `Workspace.loads_in_turn` states both for any loads in any order, and that
each of them ends with an extension or with the failure of its cause.
-/

namespace ProseLinter

/-- **A load** of an extension, which is called through a member of what it exports. -/
structure Loading where
  member : String
  resolution : Resolution

namespace Loading

/-- The load as a step from one workspace to the next. -/
def step (l : Loading) (w : Workspace) : Workspace × Except Failure Extension :=
  (Family.load l.member l.resolution).run w

/-- **The bodies that a load runs.** -/
def runs (l : Loading) (w : Workspace) : List Execution :=
  (l.step w).1.executed.drop w.executed.length

/-- What a load comes to without its wrapping. -/
def outcome (l : Loading) (w : Workspace) : Except LoadCause Extension :=
  (w.noteLoading l.resolution).attempt l.member l.resolution

end Loading

namespace Workspace

/-- The workspace after loads, one after the other. -/
def afterLoads (w : Workspace) (loads : List Loading) : Workspace :=
  loads.foldl (fun w l => (l.step w).1) w

variable {w v : Workspace} {l l' : Loading} {loads middle : List Loading} {rs : List Resolution}
  {r : Resolved} {name m : String} {path : Path} {x : Execution}

theorem afterLoads_append (w : Workspace) (loads loads' : List Loading) :
    w.afterLoads (loads ++ loads') = (w.afterLoads loads).afterLoads loads' :=
  List.foldl_append

theorem afterLoads_cons (w : Workspace) (l : Loading) (loads : List Loading) :
    w.afterLoads (l :: loads) = (l.step w).1.afterLoads loads := rfl

/-! ## One load -/

theorem step_eq (l : Loading) (w : Workspace) :
    l.step w = (w.noteLoading l.resolution).load l.member l.resolution := rfl

@[simp] theorem surroundings_step (l : Loading) (w : Workspace) :
    (l.step w).1.surroundings = w.surroundings := by
  rw [step_eq, surroundings_load, surroundings_noteLoading]

@[simp] theorem surroundings_afterLoads (w : Workspace) (loads : List Loading) :
    (w.afterLoads loads).surroundings = w.surroundings := by
  induction loads generalizing w with
  | nil => rfl
  | cons l loads ih => rw [afterLoads_cons, ih, surroundings_step]

/-- The bodies that a load runs are those that are recorded after the others. -/
theorem runs_eq {new : List Execution} (h : (l.step w).1.executed = w.executed ++ new) :
    l.runs w = new := by
  rw [Loading.runs, h, List.drop_left]

/-- A name that was not resolved runs nothing. -/
theorem executed_step_notFound (h : l.resolution = .notFound name) :
    (l.step w).1.executed = w.executed ++ [] := by
  rw [step_eq, h, List.append_nil]
  rfl

/-- **A file runs its own body**, if it compiles. -/
theorem executed_step_file (h : l.resolution = .found r) (hfile : r.moduleName = none)
    (hresolve : w.tree.resolve w.cwd r.path = .ok path) :
    (l.step w).1.executed = w.executed ++ (w.bodyAt path (fileModuleName path)).1 := by
  rw [step_eq, h, load_found, exportsOf, hfile]
  simp only
  rw [loadFile_eq (w := w.noteLoading (.found r)) hresolve,
    bodyAt_congr (surroundings_noteLoading w (.found r))]
  rcases w.bodyAt path (fileModuleName path) with ⟨xs, cause | exports⟩
  · simp only
    split <;> rfl
  · rfl

/-- A file whose path is not resolved runs nothing. -/
theorem executed_step_unresolved (h : l.resolution = .found r) (hfile : r.moduleName = none)
    {e : Failure} (hresolve : w.tree.resolve w.cwd r.path = .error e) :
    (l.step w).1.executed = w.executed ++ [] := by
  obtain ⟨cause, -, hload⟩ := loadFile_of_error hresolve
  rw [step_eq, h, load_found, exportsOf, hfile, List.append_nil]
  simp only [hload _ (surroundings_noteLoading w (.found r))]
  rfl

/-- A line in the log makes no difference to what is needed. -/
theorem neededUp_noteLoading (w : Workspace) (r : Resolution) : ∀ up,
    (w.noteLoading r).neededUp up = w.neededUp up
  | [] => rfl
  | part :: above => by
      have hsame : (w.noteLoading r).isImported = w.isImported := by cases r <;> rfl
      rw [neededUp, neededUp, neededUp_noteLoading w r above, hsame]

/-- **A load of a module is an import of its parts**, unless its name is none to import. -/
theorem step_module (hr : l.resolution = .found r) (hm : r.moduleName = some m) :
    (l.step w).1 = w.noteLoading (.found r) ∧ w.needed m = [] ∨
      (l.step w).1 = ((w.noteLoading (.found r)).importUp (dottedParts m).reverse).1 ∧
        w.needed m = w.neededUp (dottedParts m).reverse := by
  rw [step_eq, hr, load_found, exportsOf, hm]
  rcases importModule_cases m with h | h
  · exact Or.inl ⟨(h _).2, (h w).1⟩
  · exact Or.inr ⟨(h _).2, (h w).1⟩

/-- **A module runs bodies of modules that it needs.** -/
theorem step_follows (hr : l.resolution = .found r) (hm : r.moduleName = some m) :
    Follows w (l.step w).1 (w.needed m) (l.runs w) := by
  have hnoted : ∃ new, Follows (w.noteLoading (.found r)) (l.step w).1 (w.needed m) new := by
    rcases step_module (w := w) hr hm with ⟨hstep, hneeded⟩ | ⟨hstep, hneeded⟩ <;>
      rw [hstep, hneeded]
    · exact ⟨[], .refl _⟩
    · obtain ⟨new, hfollows, -⟩ := importUp_follows (areParts_up m) (w.noteLoading (.found r))
      rw [neededUp_noteLoading] at hfollows
      exact ⟨new, hfollows⟩
  obtain ⟨new, hnoted⟩ := hnoted
  have hfollows : Follows w (l.step w).1 (w.needed m) new := ⟨hnoted.surroundings, hnoted.executed,
    hnoted.kept, hnoted.added, hnoted.order, hnoted.ended⟩
  rwa [runs_eq hfollows.executed]

/-- **A load adds the bodies that it runs** to those that have run. -/
theorem executed_step (l : Loading) (w : Workspace) :
    (l.step w).1.executed = w.executed ++ l.runs w := by
  have hadds : ∃ new, (l.step w).1.executed = w.executed ++ new := by
    cases hr : l.resolution with
    | notFound name => exact ⟨_, executed_step_notFound hr⟩
    | found r =>
      cases hm : r.moduleName with
      | some m => exact ⟨_, (step_follows hr hm).executed⟩
      | none =>
        cases hresolve : w.tree.resolve w.cwd r.path with
        | error e => exact ⟨_, executed_step_unresolved hr hm hresolve⟩
        | ok path => exact ⟨_, executed_step_file hr hm hresolve⟩
  obtain ⟨new, hnew⟩ := hadds
  rw [runs_eq hnew, hnew]

/-! ## Several loads -/

/-- **A load leaves agreement** with an earlier workspace. -/
theorem step_agrees (hapart : Apart w rs) (hl : l.resolution ∈ rs)
    (h : Agrees (IsPassed rs) w v) : Agrees (IsPassed rs) w (l.step v).1 := by
  have hnoted : Agrees (IsPassed rs) w (v.noteLoading l.resolution) := by
    refine h.congr (surroundings_noteLoading v l.resolution) fun n _ => ?_
    cases l.resolution <;> rfl
  rw [step_eq]
  cases hr : l.resolution with
  | notFound name => exact h
  | found r =>
    rw [hr] at hl hnoted
    exact load_agrees hapart hl hnoted

theorem afterLoads_agrees (hapart : Apart w rs) (hloads : ∀ l ∈ loads, l.resolution ∈ rs)
    (h : Agrees (IsPassed rs) w v) : Agrees (IsPassed rs) w (v.afterLoads loads) := by
  induction loads generalizing v with
  | nil => exact h
  | cons l loads ih =>
    obtain ⟨hl, hloads⟩ := List.forall_mem_cons.mp hloads
    exact ih hloads (step_agrees hapart hl h)

/-- **What is imported is not run** by a load. -/
theorem moduleName_ne_of_isImported (hapart : Apart w rs) (hl : l.resolution ∈ rs)
    (hname : IsPassed rs name) (himported : w.isImported name = true) :
    ∀ y ∈ l.runs w, y.moduleName ≠ name := by
  intro y hy heq
  cases hr : l.resolution with
  | notFound n =>
    rw [runs_eq (executed_step_notFound hr)] at hy
    cases hy
  | found r =>
    cases hm : r.moduleName with
    | some m =>
      have hneeded := (step_follows hr hm).order.mem (List.mem_map_of_mem hy)
      rw [heq] at hneeded
      exact absurd (himported.symm.trans (isImported_of_mem_needed hneeded)) (by decide)
    | none =>
      cases hresolve : w.tree.resolve w.cwd r.path with
      | error e =>
        rw [runs_eq (executed_step_unresolved hr hm hresolve)] at hy
        cases hy
      | ok path =>
        rw [runs_eq (executed_step_file hr hm hresolve)] at hy
        have hown : y.moduleName = fileModuleName path := by
          rcases bodyAt_cases w path (fileModuleName path) with ⟨cause, hbody⟩ | ⟨x, hx, hx', -⟩
          · rw [hbody] at hy
            cases hy
          · rw [hx, List.mem_singleton] at hy
            rw [hy, hx']
        exact hapart r (hr ▸ hl) hm path hresolve (hown ▸ heq ▸ hname)

/-- A body that a load of a module runs is that of a module on the way to it. -/
theorem mem_lineage_of_mem_runs (hr : l.resolution = .found r) (hm : r.moduleName = some m)
    (hx : x ∈ l.runs w) : x.moduleName ∈ lineage m :=
  needed_subset ((step_follows hr hm).order.mem (List.mem_map_of_mem hx))

/-- **Once its body has come to its end, a module is not run again.** -/
theorem not_run_again (hr : l.resolution = .found r) (hm : r.moduleName = some m)
    (hx : x ∈ l.runs w) (hcompleted : x.completed = true) (hapart : Apart w rs)
    (hl : l.resolution ∈ rs) (hmiddle : ∀ k ∈ middle, k.resolution ∈ rs) (hl' : l'.resolution ∈ rs) :
    ∀ y ∈ l'.runs ((l.step w).1.afterLoads middle), y.moduleName ≠ x.moduleName := by
  have hsurroundings := surroundings_step l w
  have hapart' : Apart (l.step w).1 rs := hapart.congr hsurroundings
  have hname : IsPassed rs x.moduleName := ⟨r, m, hr ▸ hl, hm, mem_lineage_of_mem_runs hr hm hx⟩
  have himported := ((step_follows hr hm).ended x hx).mp hcompleted
  have hagrees := afterLoads_agrees hapart' hmiddle (.refl (IsPassed rs) (l.step w).1)
  exact moduleName_ne_of_isImported (hapart'.congr (surroundings_afterLoads _ middle)) hl' hname
    (hagrees.kept _ hname himported)

/-- **A body that does not come to its end** is that of a module which is made below a parent that
could be imported, and whose own import fails. -/
theorem exists_failing (hr : l.resolution = .found r) (hm : r.moduleName = some m)
    (hx : x ∈ l.runs w) (hcompleted : x.completed = false) :
    ∃ part above, part :: above <:+ (dottedParts m).reverse ∧
      x.moduleName = nameUp (part :: above) ∧
      ((w.noteLoading (.found r)).importUp above).2 = .ok () ∧
      x ∈ (((w.noteLoading (.found r)).importUp above).1.madeBelow part above).1 ∧
      ((w.noteLoading (.found r)).importUp (part :: above)).2 ≠ .ok () := by
  have hexecuted := (step_follows hr hm (w := w)).executed
  rcases step_module (w := w) hr hm with ⟨hstep, hneeded⟩ | ⟨hstep, -⟩
  · have hnil : l.runs w = [] := runs_eq (by rw [hstep, List.append_nil]; rfl)
    rw [hnil] at hx
    cases hx
  rw [hstep] at hexecuted
  obtain ⟨part, above, hsuffix, hnew, hok, hmade⟩ :=
    exists_madeBelow_of_executed (areParts_up m) hexecuted hx
  have hparts : AreParts (part :: above) := fun p hp => areParts_up m p (hsuffix.mem hp)
  rcases made_cases ((w.noteLoading (.found r)).importUp above).1 (nameUp (part :: above))
      (((w.noteLoading (.found r)).importUp above).1.located? part above) with hnil | ⟨y, hy, hname, hends⟩
  · rw [madeBelow, hnil] at hmade
    cases hmade
  · have hxy : x = y := by
      rw [madeBelow, hy] at hmade
      exact List.mem_singleton.mp hmade
    subst hxy
    refine ⟨part, above, hsuffix, hname, hok, hmade, fun hsucceeds => ?_⟩
    rw [importUp_cons_of_ok hparts hnew hok] at hsucceeds
    have hmodule : ∃ m', (((w.noteLoading (.found r)).importUp above).1.madeBelow part above).2 = .ok m' := by
      rcases hmade' : ((w.noteLoading (.found r)).importUp above).1.madeBelow part above with ⟨xs, cause | m'⟩
      · rw [hmade'] at hsucceeds
        cases hsucceeds
      · exact ⟨m', rfl⟩
    exact absurd (hcompleted.symm.trans (hends.mpr hmodule)) (by decide)

/-- **What is needed is made as at the start**: the import of a name runs, among others, the body of
each module that it needs, where the parent could be imported at the start. -/
theorem Agrees.exists_executed {names : String → Prop} {part : String} {above up : List String}
    (h : Agrees names w v) (hparts : AreParts up) (hsuffix : part :: above <:+ up)
    (hnames : ∀ n ∈ lineageUp above, names n) (hok : (w.importUp above).2 = .ok ())
    (hneeded : nameUp (part :: above) ∈ v.neededUp up) :
    ∃ front more, (v.importUp up).1.executed =
      v.executed ++ (front ++ ((w.importUp above).1.madeBelow part above).1 ++ more) := by
  have hown : AreParts (part :: above) := fun p hp => hparts p (hsuffix.mem hp)
  have habove := (areParts_cons.mp hown).2
  obtain ⟨hsame, hagrees⟩ := importUp_agrees habove hnames h
  obtain ⟨more, hmore⟩ := exists_executed_of_mem_needed hparts hsuffix hneeded
  obtain ⟨front, hfollows, -⟩ := importUp_follows habove v
  have hok' := hsame.trans hok
  refine ⟨front, more, ?_⟩
  rw [hmore, executed_importUp_cons hown (isImported_of_mem_neededUp hneeded) hok',
    hagrees.madeBelow_eq habove hnames hok', hfollows.executed]
  simp only [List.append_assoc]

/-- **While its body does not come to its end, a module is not imported**, and each load that needs it
runs the body again. -/
theorem run_again (hr : l.resolution = .found r) (hm : r.moduleName = some m)
    (hx : x ∈ l.runs w) (hcompleted : x.completed = false) (hapart : Apart w rs)
    (hl : l.resolution ∈ rs) (hmiddle : ∀ k ∈ middle, k.resolution ∈ rs) :
    ((l.step w).1.afterLoads middle).isImported x.moduleName = false ∧
      ∀ r' m', l'.resolution = .found r' → r'.moduleName = some m' →
        x.moduleName ∈ ((l.step w).1.afterLoads middle).needed m' →
          x ∈ l'.runs ((l.step w).1.afterLoads middle) := by
  obtain ⟨part, above, hsuffix, hname, hok, hmade, hfails⟩ := exists_failing hr hm hx hcompleted
  have hparts : AreParts (part :: above) := fun p hp => areParts_up m p (hsuffix.mem hp)
  have hpassed : ∀ n ∈ lineageUp (part :: above), IsPassed rs n := fun n hn =>
    ⟨r, m, hr ▸ hl, hm, lineageUp_subset hsuffix hn⟩
  -- what the import comes to at the first load, it comes to at each later one
  have hlater : Agrees (IsPassed rs) (w.noteLoading (.found r))
      ((l.step w).1.afterLoads middle) := by
    have hnoted : Apart (w.noteLoading (.found r)) rs := hapart.congr rfl
    refine afterLoads_agrees hnoted hmiddle ?_
    rw [step_eq, hr]
    exact load_agrees hnoted (hr ▸ hl) (.refl _ _)
  generalize (l.step w).1.afterLoads middle = v at hlater ⊢
  have hnew : v.isImported x.moduleName = false := by
    refine Bool.eq_false_iff.mpr fun himported => hfails ?_
    rw [hname] at himported
    rw [← (importUp_agrees hparts hpassed hlater).1, importUp_of_isImported himported]
  refine ⟨hnew, fun r' m' hr' hm' hneeded => ?_⟩
  rcases step_module (w := v) hr' hm' with ⟨-, hnil⟩ | ⟨hstep, hup⟩
  · rw [hnil] at hneeded
    cases hneeded
  rw [hup, ← neededUp_noteLoading v (.found r'), hname] at hneeded
  have hsuffix' : part :: above <:+ (dottedParts m').reverse := by
    obtain ⟨part', above', hsuffix', hsame⟩ := mem_lineageUp_iff.mp (neededUp_subset hneeded)
    have hparts' : AreParts (part' :: above') := fun p hp => areParts_up m' p (hsuffix'.mem hp)
    rwa [nameUp_inj (List.cons_ne_nil _ _) (List.cons_ne_nil _ _) hparts hparts' hsame]
  have hnoted : Agrees (IsPassed rs) (w.noteLoading (.found r)) (v.noteLoading (.found r')) :=
    hlater.congr rfl fun _ _ => rfl
  obtain ⟨front, more, hexecuted⟩ := hnoted.exists_executed (areParts_up m') hsuffix'
    (fun n hn => hpassed n (lineageUp_subset (List.suffix_cons part above) hn)) hok hneeded
  rw [← hstep] at hexecuted
  rw [runs_eq (w := v) hexecuted]
  exact List.mem_append_left more (List.mem_append_right front hmade)

/-! ## How a load ends -/

/-- An extension has the name and the path of its resolution. -/
theorem of_attempt_eq_ok {member : String} {e : Extension} (h : w.attempt member (.found r) = .ok e) :
    e.name = r.name ∧ e.path = r.path := by
  obtain ⟨exports, -, h⟩ := bind_eq_ok_iff.mp h
  obtain ⟨c, -, h⟩ := bind_eq_ok_iff.mp h
  obtain rfl := Except.ok.inj h
  exact ⟨rfl, rfl⟩

/-- **How a load ends**: with the extension, or with the failure of what went wrong; only an exception
of a program may have no text, and then that is the failure. -/
theorem step_outcome (hordinary : ∀ e, w.Raises e → e.kind ∉ escapingKinds) (l : Loading) :
    (∀ e, l.outcome w = .ok e → (l.step w).2 = .ok e) ∧
      ∀ cause, l.outcome w = .error cause →
        (∀ cs, cause.text = .ok cs →
          (l.step w).2 = .error (.load (.ofCause l.resolution.name cause))) ∧
        ∀ fault, cause.text = .error fault →
          (l.step w).2 = .error (.value fault) ∧ ∃ e, cause = .raised e ∧ w.Raises e := by
  have hstep : (l.step w).2 = (l.outcome w).mapError (failureOf l.resolution.name) := by
    rw [step_eq, load_eq, Loading.outcome]
  refine ⟨fun e he => by rw [hstep, he]; rfl, fun cause hcause => ?_⟩
  rw [hstep, hcause]
  have hkind : IsOrdinary cause ∧ ∀ fault, cause.text = .error fault →
      ∃ e, cause = .raised e ∧ w.Raises e := by
    rcases cause_of_attempt hcause with ⟨e, rfl, hraises⟩ | ⟨hcauseOrdinary, cs, htext⟩
    · have hw : w.Raises e := hraises.congr (surroundings_noteLoading w l.resolution)
      exact ⟨fun e' he' => LoadCause.raised.inj he' ▸ hordinary e hw, fun _ _ => ⟨e, rfl, hw⟩⟩
    · exact ⟨hcauseOrdinary, fun fault hfault => nomatch htext.symm.trans hfault⟩
  refine ⟨fun cs htext => ?_, fun fault htext => ⟨?_, hkind.2 fault htext⟩⟩
  · rw [Except.mapError, failureOf_of_text hkind.1 htext]
  · rw [Except.mapError, failureOf_of_noText hkind.1 htext]

/-- A file that fails by itself fails to load with that cause. -/
theorem attempt_eq_error_of_bodyAt {member : String} {cause : LoadCause}
    (hfile : r.moduleName = none) (hresolve : w.tree.resolve w.cwd r.path = .ok path)
    (hbody : (w.bodyAt path (fileModuleName path)).2 = .error cause) :
    w.attempt member (.found r) = .error cause := by
  rw [attempt, exportsOf, hfile]
  simp only [loadFile_eq hresolve]
  rcases hrun : w.bodyAt path (fileModuleName path) with ⟨xs, cause' | exports⟩ <;>
    rw [hrun] at hbody
  · obtain rfl := Except.error.inj hbody
    rfl
  · cases hbody

/-- **Loads in turn.**  Any loads are done one after the other, in a workspace whose programs raise
nothing that ends the program, and in which no file is known by the name of a module of the import
path.  Each load adds the bodies that it runs to those that have run:

* a load of a file that compiles runs the body of the file, and that alone;
* a load of a module of the import path runs the bodies of some modules on the way to it, each once;
  a body that comes to its end is run by no later load, and the module of one that does not is not
  imported until a later load needs it, which runs its body again.

A load ends with an extension under the name and path of its resolution, or with the failure to load
the extension of that name for the very cause; only where this is an exception of a program that has
no text, making the failure fails. -/
theorem loads_in_turn (hordinary : ∀ e, w.Raises e → e.kind ∉ escapingKinds)
    (before later : List Loading) (l : Loading)
    (hapart : Apart w ((before ++ l :: later).map (·.resolution))) :
    (l.step (w.afterLoads before)).1.executed =
        (w.afterLoads before).executed ++ l.runs (w.afterLoads before) ∧
      (∀ r path program, l.resolution = .found r → r.moduleName = none →
        w.tree.resolve w.cwd r.path = .ok path →
        w.programAt path (fileModuleName path) = .ok program →
          l.runs (w.afterLoads before) =
            [⟨fileModuleName path, path, program.label, program.raises.isNone⟩]) ∧
      (∀ r m, l.resolution = .found r → r.moduleName = some m →
        ((l.runs (w.afterLoads before)).map (·.moduleName)).Nodup ∧
          ∀ x ∈ l.runs (w.afterLoads before), x.moduleName ∈ lineage m ∧
            ∀ middle l' rest, later = middle ++ l' :: rest →
              (x.completed = true →
                ∀ y ∈ l'.runs (w.afterLoads (before ++ l :: middle)), y.moduleName ≠ x.moduleName) ∧
              (x.completed = false →
                (w.afterLoads (before ++ l :: middle)).isImported x.moduleName = false ∧
                  ∀ r' m', l'.resolution = .found r' → r'.moduleName = some m' →
                    x.moduleName ∈ (w.afterLoads (before ++ l :: middle)).needed m' →
                      x ∈ l'.runs (w.afterLoads (before ++ l :: middle)))) ∧
      (∀ e, l.outcome (w.afterLoads before) = .ok e →
        (l.step (w.afterLoads before)).2 = .ok e ∧
          ∀ r, l.resolution = .found r → e.name = r.name ∧ e.path = r.path) ∧
      ∀ cause, l.outcome (w.afterLoads before) = .error cause →
        (∀ cs, cause.text = .ok cs →
          (l.step (w.afterLoads before)).2 =
            .error (.load (.ofCause l.resolution.name cause))) ∧
        ∀ fault, cause.text = .error fault →
          (l.step (w.afterLoads before)).2 = .error (.value fault) ∧
            ∃ e, cause = .raised e ∧ w.Raises e := by
  have hsurroundings := surroundings_afterLoads w before
  have hafter : ∀ middle, w.afterLoads (before ++ l :: middle) =
      (l.step (w.afterLoads before)).1.afterLoads middle := fun middle => by
    rw [afterLoads_append, afterLoads_cons]
  have hv := hapart.congr hsurroundings
  have hl : l.resolution ∈ (before ++ l :: later).map (·.resolution) :=
    List.mem_map_of_mem (by simp)
  obtain ⟨hok, herror⟩ := step_outcome
    (fun e he => hordinary e (he.congr hsurroundings)) l (w := w.afterLoads before)
  refine ⟨executed_step l _, fun r path program hr hfile hresolve hprogram => ?_,
    fun r m hr hm => ⟨?_, fun x hx => ⟨mem_lineage_of_mem_runs hr hm hx, ?_⟩⟩,
    fun e he => ⟨hok e he, fun r hr => ?_⟩, fun cause hcause => ⟨(herror cause hcause).1,
      fun fault hfault => ?_⟩⟩
  · obtain ⟨htree, hcwd, -⟩ := surroundings_eq_iff.mp hsurroundings
    rw [← htree, ← hcwd] at hresolve
    rw [runs_eq (executed_step_file hr hfile hresolve), bodyAt_congr hsurroundings, bodyAt, hprogram]
  · exact (step_follows hr hm).order.nodup (nodup_needed _ m)
  · rintro middle l' rest rfl
    have hmiddle : ∀ k ∈ middle, k.resolution ∈
        (before ++ l :: (middle ++ l' :: rest)).map (·.resolution) := fun k hk =>
      List.mem_map_of_mem (by simp [hk])
    have hl' : l'.resolution ∈ (before ++ l :: (middle ++ l' :: rest)).map (·.resolution) :=
      List.mem_map_of_mem (by simp)
    rw [hafter]
    exact ⟨fun hcompleted => not_run_again hr hm hx hcompleted hv hl hmiddle hl',
      fun hcompleted => run_again hr hm hx hcompleted hv hl hmiddle⟩
  · rw [Loading.outcome, hr] at he
    exact of_attempt_eq_ok he
  · obtain ⟨hfails, e, hcause', hraises⟩ := (herror cause hcause).2 fault hfault
    exact ⟨hfails, e, hcause', hraises.congr hsurroundings⟩

/-- A load of the module of the library. -/
def libraryLoading : Loading :=
  ⟨"create", .found ⟨"a.b.c", libraryModule, .package, some "a.b.c"⟩⟩

/-- What the load runs at first, and what it comes to. -/
theorem libraryLoading_runs :
    libraryLoading.runs library =
        [⟨"a.b", libraryPackage, some "b", true⟩, ⟨"a.b.c", libraryModule, some "c", false⟩] ∧
      libraryLoading.outcome library = .error (.raised ⟨"ValueError", []⟩) := by
  have horigin : library.origin? "a.b.c" = some libraryModule := by
    have hup : (dottedParts "a.b.c").reverse = ["c", "b", "a"] := by decide
    rw [origin?, find_eq_findUp (fun _ _ => rfl) (by decide), hup, findUp_library.2.2]
    rfl
  obtain ⟨hexecuted, hattempt⟩ := attempt_inTurn (w := library)
    (v := library.noteLoading libraryLoading.resolution)
    (r := ⟨"a.b.c", libraryModule, .package, some "a.b.c"⟩) rfl rfl
    (fun _ _ => rfl) rfl horigin "create"
  rw [runInTurn_library] at hexecuted hattempt
  refine ⟨runs_eq ?_, hattempt⟩
  rw [step_eq]
  exact (congrArg executed (load_found _ _ _)).trans hexecuted

/-- The package is run once, and its module by each load. -/
theorem loads_in_turn_library :
    libraryLoading.runs library =
        [⟨"a.b", libraryPackage, some "b", true⟩, ⟨"a.b.c", libraryModule, some "c", false⟩] ∧
      ⟨"a.b.c", libraryModule, some "c", false⟩ ∈
        libraryLoading.runs (library.afterLoads [libraryLoading]) ∧
      (∀ y ∈ libraryLoading.runs (library.afterLoads [libraryLoading]), y.moduleName ≠ "a.b") ∧
      (libraryLoading.step library).2 =
        .error (.load (.ofCause "a.b.c" (.raised ⟨"ValueError", []⟩))) := by
  obtain ⟨hruns, houtcome⟩ := libraryLoading_runs
  have hordinary : ∀ e, library.Raises e → e.kind ∉ escapingKinds := fun e he => by
    have hraised : library.tree.entries.map (raisedIn ·.2) =
        [none, none, none, none, none, none, none, some ⟨"ValueError", []⟩] := rfl
    have hmem := he.mem
    rw [hraised] at hmem
    obtain rfl : e = ⟨"ValueError", []⟩ := by simpa using hmem
    decide
  have hapart : Apart library
      (([] ++ libraryLoading :: [libraryLoading]).map Loading.resolution) := by
    intro r hr hfile
    have hr : r = ⟨"a.b.c", libraryModule, .package, some "a.b.c"⟩ := by
      simpa [libraryLoading] using hr
    rw [hr] at hfile
    cases hfile
  obtain ⟨-, -, hmodule, -, herror⟩ :=
    loads_in_turn hordinary [] [libraryLoading] libraryLoading hapart
  obtain ⟨-, hbodies⟩ := hmodule _ _ rfl rfl
  change ∀ x ∈ libraryLoading.runs library, _ at hbodies
  rw [hruns] at hbodies
  obtain ⟨-, hpackage⟩ := hbodies _ (List.mem_cons_self)
  obtain ⟨-, hlast⟩ := hbodies _ (List.mem_cons_of_mem _ List.mem_cons_self)
  obtain ⟨honce, -⟩ := hpackage [] libraryLoading [] rfl
  obtain ⟨-, hagain⟩ := hlast [] libraryLoading [] rfl
  obtain ⟨hnew, hneeds⟩ := hagain rfl
  refine ⟨hruns, hneeds _ _ rfl rfl ?_, honce rfl, (herror _ houtcome).1 [] rfl⟩
  have hup : (dottedParts "a.b.c").reverse = ["c", "b", "a"] := by decide
  have hname : nameUp ["c", "b", "a"] = "a.b.c" := by decide
  have hneeded : ∀ v : Workspace, v.needed "a.b.c" = v.neededUp (dottedParts "a.b.c").reverse :=
    fun _ => rfl
  rw [hneeded, hup, neededUp, hname, hnew]
  exact List.mem_append_right _ List.mem_cons_self

/-- A workspace with a source that raises an exception about a number of too many digits. -/
def textless : Workspace where
  tree := .directory
    [("f.py", .file (.bytes (Source.raisingSource "ValueError" 10 Integer.maxDigits)))]
  cwd := []
  importPath := []
  modules := []
  executed := []
  log := []

/-- A load of the source. -/
def textlessLoading : Loading :=
  ⟨"create", .found ⟨"f.py", ⟨.absolute, ["f.py"]⟩, .file, none⟩⟩

/-- **A load may end otherwise**: with neither an extension nor the failure to load it, though the
cause is an ordinary one. -/
theorem load_textless :
    (textlessLoading.step textless).2 = .error (.value .tooManyDigits) ∧
      textlessLoading.outcome textless =
        .error (.raised ⟨"ValueError", [.int Integer.tooLong]⟩) ∧
      ∀ e, textless.Raises e → e.kind ∉ escapingKinds := by
  have hkind : "ValueError" ∈ Raised.kinds := by decide
  have hprogram : Source.program? (Source.raisingSource "ValueError" 10 Integer.maxDigits) =
      some (.raising ⟨"ValueError", [.int Integer.tooLong]⟩) :=
    Source.program?_raisingSource hkind (Integer.isWritable_iff.mpr (by decide))
      (Integer.isWritable_iff.mpr (by decide))
  have hordinary : ∀ e, textless.Raises e → e.kind ∉ escapingKinds := fun e he => by
    have hmem := he.mem
    simp only [textless, Entry.entries, Entry.entriesOf, List.map_cons, List.map_nil,
      List.append_nil, raisedIn, hprogram] at hmem
    obtain rfl : e = ⟨"ValueError", [.int Integer.tooLong]⟩ := by simpa [Program.raising] using hmem
    decide
  have hfree : textless.tree.LinkFree := ⟨by decide, by decide, by decide⟩
  have hresolve : textless.tree.resolve textless.cwd ⟨.absolute, ["f.py"]⟩ =
      .ok ⟨.absolute, ["f.py"]⟩ :=
    hfree.resolve_eq (by decide) (by decide) (by decide)
  have hread : textless.tree.read textless.cwd ⟨.absolute, ["f.py"]⟩ =
      .ok (.bytes (Source.raisingSource "ValueError" 10 Integer.maxDigits)) :=
    hfree.read_eq (by decide) textless.cwd rfl
  have hloader : loaderOf ⟨.absolute, ["f.py"]⟩ = .source := by decide
  have houtcome : textlessLoading.outcome textless =
      .error (.raised ⟨"ValueError", [.int Integer.tooLong]⟩) := by
    refine attempt_eq_error_of_bodyAt rfl hresolve ?_
    rw [bodyAt_congr (surroundings_noteLoading textless _)]
    simp only [bodyAt, programAt, hloader, hread, programOf, hprogram,
      Source.contains_zero_raisingSource hkind]
    rfl
  have htext : LoadCause.text (.raised ⟨"ValueError", [.int Integer.tooLong]⟩) =
      .error .tooManyDigits := by
    rw [LoadCause.text, Raised.text_int, if_neg (by simp [Integer.isWritable_tooLong])]
  obtain ⟨-, hfails⟩ := (step_outcome hordinary textlessLoading).2 _ houtcome
  exact ⟨(hfails _ htext).1, houtcome, hordinary⟩

end Workspace

end ProseLinter
