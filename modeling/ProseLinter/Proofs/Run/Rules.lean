import ProseLinter.Proofs.Extension.Discipline
import ProseLinter.Run

/-!
# Proofs/Run/Rules — rules are loaded in any order

The enabled rules are resolved before any of them is loaded, and then loaded in an order that is not
theirs to choose.  What is loaded for a rule was settled at the start, and the rules are paired with
what was loaded for them by their numbers; so the order makes no difference to the rules
(`Run.loadRulesIn_schedule`), as long as no load takes the place of what another one looks for.
-/

namespace ProseLinter

namespace Run

open Work Workspace

variable {w v : Workspace} {family : Family} {config : Config} {cwd : Option Path}
  {names : List String} {rs : List Resolution} {r : Resolution} {name member : String}
  {l : Loading} {schedule : List ℕ}

/-- **Loading a rule on its own**: its name is resolved, and what it is resolved to is loaded. -/
def loadAlone (family : Family) (cwd : Option Path) (name : String) : Work Extension := do
  Family.load family.member (← family.resolve cwd name)

/-- What a name is resolved to in a workspace. -/
def IsResolved (w : Workspace) (family : Family) (cwd : Option Path) (name : String)
    (r : Resolution) : Prop :=
  w.resolve (family.search cwd) name = .ok r

/-! ## Resolving -/

theorem IsResolved.name_eq (h : IsResolved w family cwd name r) : r.name = name := by
  rw [IsResolved, Workspace.resolve] at h
  simp only at h
  repeat' split at h
  all_goals cases h
  all_goals rfl

/-- Resolving a name leaves a line in the log. -/
theorem run_resolve (h : IsResolved w family cwd name r) :
    (family.resolve cwd name).run w = (w.noteResolution (family.search cwd) r, .ok r) := by
  rw [IsResolved] at h
  rw [Family.resolve, Work.resolve, run_ofStep, h]

/-- What is noted in the log changes nothing for the names that follow. -/
theorem IsResolved.noteResolution (h : IsResolved w family cwd name r) (s : Search)
    (r' : Resolution) : IsResolved (w.noteResolution s r') family cwd name r :=
  (resolve_congr (surroundings_noteResolution w s r') (modules_noteResolution w s r') _ _).trans h

/-- **All names are resolved as at the start**, and nothing is run. -/
theorem run_resolveAll (h : List.Forall₂ (IsResolved w family cwd) names rs) :
    ∃ v, (resolveAll family cwd names).run w = (v, .ok rs) ∧ v.surroundings = w.surroundings ∧
      v.modules = w.modules ∧ v.executed = w.executed := by
  induction names generalizing rs w with
  | nil =>
    cases h
    exact ⟨w, rfl, rfl, rfl, rfl⟩
  | cons name names ih =>
    obtain - | ⟨hr, hrest⟩ := h
    rename_i r rs
    obtain ⟨v, hrun, hsurroundings, hmodules, hexecuted⟩ :=
      ih (hrest.imp fun _ _ hn => hn.noteResolution (family.search cwd) r)
    refine ⟨v, ?_, hsurroundings.trans (surroundings_noteResolution w _ r),
      hmodules.trans (modules_noteResolution w _ r), hexecuted.trans (executed_noteResolution w _ r)⟩
    rw [resolveAll, run_bind, run_resolve hr]
    simp only
    rw [run_bind, hrun]
    rfl

/-! ## Loading -/

/-- **Free**: no load brings in a submodule that takes the place of the callable of another one. -/
def IsFree (rs : List Resolution) (member : String) : Prop :=
  ∀ r m, Resolution.found r ∈ rs → r.moduleName = some m →
    ∀ key ∈ ["default", member], ¬ IsPassed rs (submodule m key)

/-- **Tame programs**: what they raise does not end the program, and has a text. -/
def IsTame (w : Workspace) : Prop :=
  ∀ e, w.Raises e → e.kind ∉ escapingKinds ∧ ∃ cs, e.text = .ok cs

/-- A load gives what it attempts, or fails with a cause under the name of the extension. -/
theorem step_cases (htame : IsTame w) (l : Loading) :
    (∀ e, (l.step w).2 = .ok e ↔ l.outcome w = .ok e) ∧
      ∀ f, (l.step w).2 = .error f →
        ∃ cause, f = .load (.ofCause l.resolution.name cause) := by
  obtain ⟨hok, herror⟩ := step_outcome (fun e he => (htame e he).1) l
  cases houtcome : l.outcome w with
  | ok e =>
    rw [hok e houtcome]
    exact ⟨fun _ => by rw [Except.ok.injEq, Except.ok.injEq], fun _ => nofun⟩
  | error cause =>
    obtain ⟨hfails, hnoText⟩ := herror cause houtcome
    have htext : ∃ cs, cause.text = .ok cs := by
      cases htext : cause.text with
      | ok cs => exact ⟨cs, rfl⟩
      | error fault =>
        obtain ⟨-, e, rfl, hraises⟩ := hnoText fault htext
        obtain ⟨cs, hcs⟩ := (htame e hraises).2
        exact ⟨cs, htext.symm.trans hcs⟩
    obtain ⟨cs, hcs⟩ := htext
    rw [hfails cs hcs]
    exact ⟨fun _ => ⟨nofun, nofun⟩, fun f hf => ⟨cause, (Except.error.inj hf).symm⟩⟩

/-- **What is loaded was settled at the start.** -/
theorem outcome_agrees (hapart : Apart w rs) (hfree : IsFree rs l.member) (hl : l.resolution ∈ rs)
    (h : Agrees (IsPassed rs) w v) (e : Extension) :
    l.outcome v = .ok e ↔ w.attempt l.member l.resolution = .ok e := by
  rw [Loading.outcome]
  cases hr : l.resolution with
  | notFound name => rfl
  | found r =>
    rw [hr] at hl
    have hnoted : Agrees (IsPassed rs) w (v.noteLoading (.found r)) := h.congr rfl fun _ _ => rfl
    exact attempt_agrees hapart hl hnoted (fun m hm => hfree r m hl hm) e

/-- **The result with a number is settled**: it is what the resolution with that number comes to at
the start, and a failure to load is under its name. -/
def IsSettled (w : Workspace) (rs : List Resolution) (member : String)
    (result : ℕ × Except Failure Extension) : Prop :=
  ∃ r, rs[result.1]? = some r ∧ (∀ e, result.2 = .ok e ↔ w.attempt member r = .ok e) ∧
    ∀ f, result.2 = .error f → ∃ cause, f = .load (.ofCause r.name cause)

/-- **Loads in any order**: each of them has a result, and each result is settled. -/
theorem loadEach_settled (htame : IsTame w) (hapart : Apart w rs) (hfree : IsFree rs member) :
    ∀ {schedule : List ℕ} {v : Workspace}, Agrees (IsPassed rs) w v →
      (∀ i ∈ schedule, i < rs.length) →
        (loadEach member rs v schedule).2.map Prod.fst = schedule ∧
          ∀ result ∈ (loadEach member rs v schedule).2, IsSettled w rs member result
  | [], _, _, _ => ⟨rfl, nofun⟩
  | i :: schedule, v, hv, hschedule => by
      obtain ⟨hi, hschedule⟩ := List.forall_mem_cons.mp hschedule
      have hr : rs[i]? = some rs[i] := List.getElem?_eq_getElem hi
      have hl : rs[i] ∈ rs := List.getElem_mem hi
      -- the load with the number, from where the loads before it have come to
      let l : Loading := ⟨member, rs[i]⟩
      obtain ⟨hnumbers, hrest⟩ := loadEach_settled htame hapart hfree
        (step_agrees (l := l) hapart hl hv) hschedule
      have htamev : IsTame v := fun e he => htame e (he.congr hv.surroundings)
      obtain ⟨hok, herror⟩ := step_cases htamev l
      rw [loadEach, hr]
      refine ⟨congrArg (i :: ·) hnumbers, List.forall_mem_cons.mpr ⟨⟨rs[i], hr, fun e => ?_, ?_⟩, hrest⟩⟩
      · exact (hok e).trans (outcome_agrees (l := l) hapart hfree hl hv e)
      · exact herror

/-! ## Results -/

/-- **Results of all loads**: there is one for each resolution, and each one is settled. -/
structure AreResults (w : Workspace) (rs : List Resolution) (member : String)
    (results : List (ℕ × Except Failure Extension)) : Prop where
  complete : ∀ i < rs.length, i ∈ results.map Prod.fst
  settled : ∀ result ∈ results, IsSettled w rs member result

variable {results : List (ℕ × Except Failure Extension)} {f : Failure} {e : Extension} {i : ℕ}

theorem firstFailure?_eq_none_iff :
    firstFailure? results = none ↔ ∀ result ∈ results, ∃ e, result.2 = .ok e := by
  induction results with
  | nil => simp [firstFailure?]
  | cons result results ih =>
    obtain ⟨i, f | e⟩ := result
    · simp [firstFailure?]
    · simp [firstFailure?, ih]

theorem exists_of_firstFailure? (h : firstFailure? results = some f) :
    ∃ i, (i, Except.error f) ∈ results := by
  induction results with
  | nil => cases h
  | cons result results ih =>
    obtain ⟨i, f' | e⟩ := result
    · obtain rfl := Option.some.inj h
      exact ⟨i, List.mem_cons_self⟩
    · obtain ⟨j, hj⟩ := ih h
      exact ⟨j, List.mem_cons_of_mem _ hj⟩

namespace AreResults

/-- **Nothing fails** exactly if each resolution can be loaded. -/
theorem firstFailure?_eq_none (h : AreResults w rs member results) :
    firstFailure? results = none ↔ ∀ r ∈ rs, ∃ e, w.attempt member r = .ok e := by
  rw [firstFailure?_eq_none_iff]
  refine ⟨fun hall r hr => ?_, fun hall result hmem => ?_⟩
  · obtain ⟨i, hi⟩ := List.mem_iff_getElem?.mp hr
    obtain ⟨hlt, -⟩ := List.getElem?_eq_some_iff.mp hi
    obtain ⟨result, hmem, rfl⟩ := List.mem_map.mp (h.complete i hlt)
    obtain ⟨r', hr', hok, -⟩ := h.settled result hmem
    obtain rfl := Option.some.inj (hi.symm.trans hr')
    obtain ⟨e, he⟩ := hall result hmem
    exact ⟨e, (hok e).mp he⟩
  · obtain ⟨r, hr, hok, -⟩ := h.settled result hmem
    obtain ⟨e, he⟩ := hall r (List.mem_of_getElem? hr)
    exact ⟨e, (hok e).mpr he⟩

/-- **The failure that is told** is that of a resolution that cannot be loaded. -/
theorem exists_of_firstFailure? (h : AreResults w rs member results)
    (hf : firstFailure? results = some f) :
    ∃ r ∈ rs, (∀ e, w.attempt member r ≠ .ok e) ∧ ∃ cause, f = .load (.ofCause r.name cause) := by
  obtain ⟨i, hmem⟩ := Run.exists_of_firstFailure? hf
  obtain ⟨r, hr, hok, hfails⟩ := h.settled _ hmem
  refine ⟨r, List.mem_of_getElem? hr, fun e he => ?_, hfails f rfl⟩
  cases (hok e).mpr he

/-- The extension with a number is what the resolution with the number comes to. -/
theorem loaded?_eq (h : AreResults w rs member results) (hr : rs[i]? = some r)
    (he : w.attempt member r = .ok e) : loaded? results i = some e := by
  have hlookup : ∀ {more : List (ℕ × Except Failure Extension)},
      (∀ result ∈ more, IsSettled w rs member result) → i ∈ more.map Prod.fst →
        more.lookup i = some (.ok e) := by
    intro more hsettled hi
    induction more with
    | nil => cases hi
    | cons result more ih =>
      obtain ⟨hfirst, hrest⟩ := List.forall_mem_cons.mp hsettled
      obtain ⟨j, x⟩ := result
      by_cases hij : i = j
      · subst hij
        obtain ⟨r', hr', hok, -⟩ := hfirst
        obtain rfl := Option.some.inj (hr.symm.trans hr')
        rw [List.lookup_cons_self]
        exact congrArg some ((hok e).mpr he)
      · rw [List.lookup_cons, beq_eq_false_iff_ne.mpr hij]
        exact ih hrest ((List.mem_cons.mp hi).resolve_left hij)
  obtain ⟨hlt, -⟩ := List.getElem?_eq_some_iff.mp hr
  rw [loaded?, hlookup h.settled (h.complete i hlt)]

end AreResults

/-- **Loads in any order have all results.** -/
theorem areResults_loadEach (htame : IsTame w) (hapart : Apart w rs) (hfree : IsFree rs member)
    (hv : Agrees (IsPassed rs) w v) (hschedule : schedule.Perm (List.range rs.length)) :
    AreResults w rs member (loadEach member rs v schedule).2 := by
  have hmem : ∀ i, i ∈ schedule ↔ i < rs.length := fun i =>
    hschedule.mem_iff.trans List.mem_range
  obtain ⟨hnumbers, hsettled⟩ :=
    loadEach_settled htame hapart hfree hv fun i hi => (hmem i).mp hi
  exact ⟨fun i hi => by rw [hnumbers, hmem i]; exact hi, hsettled⟩

/-! ## The rules -/

/-- Loading a rule on its own gives what its resolution comes to. -/
theorem loadAlone_gives_iff (htame : IsTame w) (hapart : Apart w rs)
    (hfree : IsFree rs family.member) (hr : IsResolved w family cwd name r) (hmem : r ∈ rs)
    (e : Extension) :
    ((loadAlone family cwd name).run w).2 = .ok e ↔ w.attempt family.member r = .ok e := by
  have hsurroundings := surroundings_noteResolution w (family.search cwd) r
  have htame' : IsTame (w.noteResolution (family.search cwd) r) := fun e he =>
    htame e (he.congr hsurroundings)
  have hagrees : Agrees (IsPassed rs) w (w.noteResolution (family.search cwd) r) :=
    (Agrees.refl (IsPassed rs) w).congr hsurroundings fun n _ => by rw [modules_noteResolution]
  obtain ⟨hok, -⟩ := step_cases htame' ⟨family.member, r⟩
  rw [loadAlone, run_bind, run_resolve hr]
  exact (hok e).trans (outcome_agrees (l := ⟨family.member, r⟩) hapart hfree hmem hagrees e)

/-- **The enabled rules** are those of the results, unless one of them failed. -/
theorem run_loadRulesIn {w₁ : Workspace} (hnames : config.enabledRules = .ok names)
    (hresolve : (resolveAll family cwd names).run w = (w₁, .ok rs)) :
    (loadRulesIn schedule family config cwd).run w =
      ((loadEach family.member rs w₁ schedule).1,
        match firstFailure? (loadEach family.member rs w₁ schedule).2 with
        | some f => .error f
        | none => .ok ((names.zip (List.range names.length)).filterMap fun (name, i) =>
            (loaded? (loadEach family.member rs w₁ schedule).2 i).map fun e =>
              ⟨name, e.function.rule, config.ruleConfig name⟩)) := by
  rw [loadRulesIn, hnames, run_bind, run_ofExcept]
  simp only
  rw [run_bind, hresolve]
  simp only
  rw [run_bind, run_ofStep]
  simp only
  cases firstFailure? (loadEach family.member rs w₁ schedule).2 <;> rfl

/-- Numbers that no rule has are passed over. -/
theorem loadEach_append_of_le {more : List ℕ} (h : ∀ i ∈ more, rs.length ≤ i) (schedule : List ℕ)
    (w : Workspace) :
    loadEach member rs w (schedule ++ more) = loadEach member rs w schedule := by
  induction schedule generalizing w with
  | nil =>
    induction more with
    | nil => rfl
    | cons i more ih =>
      obtain ⟨hi, hmore⟩ := List.forall_mem_cons.mp h
      rw [List.nil_append, loadEach.eq_2, List.getElem?_eq_none hi]
      exact ih hmore
  | cons i schedule ih =>
    rw [List.cons_append, loadEach, loadEach]
    cases rs[i]? with
    | none => exact ih w
    | some r => simp only [ih]

theorem length_le_of_enabledAmong : ∀ {all names : List String},
    config.enabledAmong all = .ok names → names.length ≤ all.length
  | [], _, h => by
      obtain rfl := Except.ok.inj h
      exact Nat.le_refl 0
  | name :: all, _, h => by
      rw [Config.enabledAmong] at h
      obtain ⟨s, -, h⟩ := bind_eq_ok_iff.mp h
      obtain ⟨more, hmore, h⟩ := bind_eq_ok_iff.mp h
      have hle := length_le_of_enabledAmong hmore
      obtain rfl := Except.ok.inj h
      split
      · exact Nat.le_succ_of_le hle
      · exact Nat.succ_le_succ hle

/-- **In their own order** the rules are loaded when no other order is asked for. -/
theorem run_loadRules (hnames : config.enabledRules = .ok names)
    (hresolve : List.Forall₂ (IsResolved w family cwd) names rs) :
    (loadRules family config cwd).run w =
      (loadRulesIn (List.range names.length) family config cwd).run w := by
  obtain ⟨w₁, hrun, -⟩ := run_resolveAll hresolve
  have hle := length_le_of_enabledAmong hnames
  rw [List.length_map] at hle
  obtain ⟨more, hmore⟩ := Nat.exists_eq_add_of_le hle
  have hover : ∀ i ∈ (List.range more).map (names.length + ·), rs.length ≤ i := fun i hi => by
    obtain ⟨j, -, rfl⟩ := List.mem_map.mp hi
    rw [← hresolve.length_eq]
    exact Nat.le_add_right _ _
  rw [loadRules, run_loadRulesIn hnames hrun, run_loadRulesIn hnames hrun, hmore, List.range_add,
    loadEach_append_of_le hover]

/-- Items with what is found for their numbers, one by one. -/
theorem forall₂_numbered {α β γ : Type} {find? : ℕ → Option β} {p : α → β → Prop} {g : α → β → γ}
    {l : List α} (h : ∀ i a, l[i]? = some a → ∃ b, find? i = some b ∧ p a b) :
    List.Forall₂ (fun a c => ∃ b, p a b ∧ c = g a b) l
      ((l.zip (List.range l.length)).filterMap fun (a, i) => (find? i).map (g a)) := by
  have hgo : ∀ {more : List (α × ℕ)}, (∀ x ∈ more, ∃ b, find? x.2 = some b ∧ p x.1 b) →
      List.Forall₂ (fun (x : α × ℕ) c => ∃ b, p x.1 b ∧ c = g x.1 b) more
        (more.filterMap fun (a, i) => (find? i).map (g a)) := by
    intro more hmore
    induction more with
    | nil => exact .nil
    | cons x more ih =>
      obtain ⟨⟨b, hb, hp⟩, hrest⟩ := List.forall_mem_cons.mp hmore
      rw [List.filterMap_cons_some (b := g x.1 b) (by simp only [hb, Option.map_some])]
      exact .cons ⟨b, hp, rfl⟩ (ih hrest)
  have hpairs : l.zip (List.range l.length) = l.zipIdx := by
    rw [List.zipIdx_eq_zip_range', List.range_eq_range']
  have hfst : l.zipIdx.map Prod.fst = l := by
    rw [← hpairs, List.map_fst_zip (by rw [List.length_range])]
  rw [hpairs]
  suffices hall : List.Forall₂ (fun a c => ∃ b, p a b ∧ c = g a b) (l.zipIdx.map Prod.fst) _ by
    rwa [hfst] at hall
  exact List.forall₂_map_left_iff.mpr
    (hgo fun x hx => h x.2 x.1 (List.mem_zipIdx_iff_getElem?.mp hx))

/-! ## A package with a module in it -/

/-- A program that exports something callable. -/
def exporting : Program := ⟨none, true, none, [("create", .callable (.function "f"))]⟩

/-- A module with the exports of the program has a callable… -/
theorem normalize_exporting (label : String) :
    (Export.module label exporting.exports).normalize "create" = .ok (.function "f") := by
  rw [Export.normalize_module label (by decide), Export.callableAt?_module label rfl]
  rfl

/-- …and none when a module of its own has taken the place. -/
theorem normalize_replaced (label below : String) (exports : List (String × Export)) :
    (Export.module label (insertEntry "create" (.module below exports) exporting.exports)).normalize
      "create" = .error (.notCallable label "create") := by
  rw [Export.normalize_module label rfl, Export.callableAt?_module label rfl]
  rfl

/-- A package with a module in it, and a module beside it. -/
def nested : Workspace where
  tree := .directory
    [ ("p", .directory
        [ ("__init__.py", .file (.source exporting)), ("create.py", .file (.source exporting)) ]),
      ("q.py", .file (.source exporting)) ]
  cwd := []
  importPath := [.top]
  modules := []
  executed := []
  log := []

/-- The family of the rules, with none bundled. -/
def nestedRules : Family := Family.rules ⟨⟨.absolute, ["b"]⟩⟩

theorem linkFree_nested : nested.tree.LinkFree := ⟨by decide, by decide, by decide⟩

/-- Where the modules are found. -/
theorem findUp_nested :
    nested.findUp ["p"] =
        some ⟨some ⟨.absolute, ["p", "__init__.py"]⟩, some [⟨.absolute, ["p"]⟩]⟩ ∧
      nested.findUp ["create", "p"] = some ⟨some ⟨.absolute, ["p", "create.py"]⟩, none⟩ ∧
      nested.findUp ["q"] = some ⟨some ⟨.absolute, ["q.py"]⟩, none⟩ := by
  have hfind : ∀ {directories part}, (∀ d ∈ directories, IsStraight d) →
      part ≠ "." ∧ part ≠ ".." →
        nested.findIn directories part = findAt nested.tree directories part :=
    findIn_eq linkFree_nested
  have hp : nested.findUp ["p"] =
      some ⟨some ⟨.absolute, ["p", "__init__.py"]⟩, some [⟨.absolute, ["p"]⟩]⟩ :=
    (hfind (by decide) (by decide)).trans (by decide)
  refine ⟨hp, ?_, (hfind (by decide) (by decide)).trans (by decide)⟩
  rw [findUp, hp]
  exact (hfind (by decide) (by decide)).trans (by decide)

/-- What the name of one of the modules is resolved to. -/
def nestedModule (name : String) (names : List String) : Resolution :=
  .found ⟨name, ⟨.absolute, names⟩, .package, some name⟩

/-- The package, the module in it, and the module beside it. -/
def ofPackage : Resolution := nestedModule "p" ["p", "__init__.py"]

def ofSubmodule : Resolution := nestedModule "p.create" ["p", "create.py"]

def ofBeside : Resolution := nestedModule "q" ["q.py"]

/-- **One of the modules**, with the parts of its name and those of its path: its name is resolved to
it, and the bodies on the way to it come to their ends. -/
structure IsNested (name : String) (up names : List String) : Prop where
  parts : (dottedParts name).reverse = up
  identifiers : (dottedParts name).all (fun part => Text.isIdentifier part.toList) = true
  found : ∃ locations, nested.findUp up = some ⟨some ⟨.absolute, names⟩, locations⟩
  body : (nested.bodyAt ⟨.absolute, names⟩ name).2 = .ok exporting.exports
  turn : (nested.runInTurn (nested.bodiesUp up)).2 = .ok ()
  resolved : IsResolved nested nestedRules none name (nestedModule name names)

/-- Each of the programs comes to its end, with the same exports. -/
theorem bodyAt_nested {names : List String} (hdots : Entry.HasNoDots names)
    (hloader : loaderOf ⟨.absolute, names⟩ = .source)
    (hat : nested.tree.at? names = some (.file (.source exporting))) (name : String) :
    nested.bodyAt ⟨.absolute, names⟩ name =
      ([⟨name, ⟨.absolute, names⟩, none, true⟩], .ok exporting.exports) := by
  have hread : nested.tree.read nested.cwd ⟨.absolute, names⟩ = .ok (.source exporting) :=
    linkFree_nested.read_eq hdots nested.cwd hat
  simp only [bodyAt, programAt, programOf, hloader, hread]
  rfl

/-- What a name is resolved to that is no file and has no package of its own. -/
theorem isResolved_nested {up prefixedUp names : List String} {locations : Option (List Path)}
    (hname : name ≠ "") (hpath : Path.ofText name = ⟨.relative, [name]⟩)
    (hdots : Entry.HasNoDots [name]) (hnull : Entry.hasNull ⟨.absolute, [name]⟩ = false)
    (hat : (nested.tree.at? [name]).any Entry.isFile = false)
    (hbundled : ∀ p ∈ (nestedRules.search none).bundledCandidates name,
      IsStraight p ∧ (nested.tree.at? p.names).any Entry.isFile = false)
    (hprefixed : (dottedParts ((nestedRules.search none).packageName name)).reverse = prefixedUp)
    (hidentifiers : (dottedParts ((nestedRules.search none).packageName name)).all
      (fun part => Text.isIdentifier part.toList) = true)
    (hmissing : nested.findUp prefixedUp = none)
    (hparts : (dottedParts name).reverse = up)
    (hidentifiers' : (dottedParts name).all (fun part => Text.isIdentifier part.toList) = true)
    (hfound : nested.findUp up = some ⟨some ⟨.absolute, names⟩, locations⟩) :
    IsResolved nested nestedRules none name (nestedModule name names) := by
  have horigin : nested.origin? name = some ⟨.absolute, names⟩ := by
    rw [origin?_eq_findUp (fun _ _ => rfl) hidentifiers', hparts, hfound]
    rfl
  have hnone : nested.origin? ((nestedRules.search none).packageName name) = none := by
    rw [origin?_eq_findUp (fun _ _ => rfl) hidentifiers, hprefixed, hmissing]
    rfl
  exact resolve_eq_package linkFree_nested (by decide) rfl hname hpath hdots hnull hat hbundled
    hnone horigin

/-- No directory offers a package that is named after one of the rules. -/
theorem findUp_prefixed :
    nested.findUp ["textguard_rule_p"] = none ∧
      nested.findUp ["create", "textguard_rule_p"] = none ∧
      nested.findUp ["textguard_rule_q"] = none := by
  have hmissing : ∀ part, part ≠ "." ∧ part ≠ ".." →
      findAt nested.tree [.top] part = none → nested.findUp [part] = none :=
    fun part hpart hnone => (findIn_eq linkFree_nested (by decide) hpart).trans hnone
  have hp := hmissing "textguard_rule_p" (by decide) (by decide)
  refine ⟨hp, ?_, hmissing "textguard_rule_q" (by decide) (by decide)⟩
  rw [findUp, hp]
  rfl

/-- The package, the module in it, and the module beside it. -/
theorem isNested :
    IsNested "p" ["p"] ["p", "__init__.py"] ∧
      IsNested "p.create" ["create", "p"] ["p", "create.py"] ∧ IsNested "q" ["q"] ["q.py"] := by
  obtain ⟨hp, hcreate, hq⟩ := findUp_nested
  obtain ⟨hp', hcreate', hq'⟩ := findUp_prefixed
  have hpackage : ∀ name, nested.bodyAt ⟨.absolute, ["p", "__init__.py"]⟩ name = _ :=
    bodyAt_nested (by decide) (by decide) rfl
  have hsub : ∀ name, nested.bodyAt ⟨.absolute, ["p", "create.py"]⟩ name = _ :=
    bodyAt_nested (by decide) (by decide) rfl
  have hbeside : ∀ name, nested.bodyAt ⟨.absolute, ["q.py"]⟩ name = _ :=
    bodyAt_nested (by decide) (by decide) rfl
  refine ⟨⟨by decide, by decide, ⟨_, hp⟩, by rw [hpackage], ?_, ?_⟩,
    ⟨by decide, by decide, ⟨_, hcreate⟩, by rw [hsub], ?_, ?_⟩,
    ⟨by decide, by decide, ⟨_, hq⟩, by rw [hbeside], ?_, ?_⟩⟩
  · simp [bodiesUp, hp, runInTurn, hpackage]
  · exact isResolved_nested (by decide) rfl (by decide) (by decide) (by decide) (by decide)
      (by decide) (by decide) hp' (by decide) (by decide) hp
  · simp [bodiesUp, hp, hcreate, runInTurn, hpackage, hsub]
  · exact isResolved_nested (by decide) rfl (by decide) (by decide) (by decide) (by decide)
      (by decide) (by decide) hcreate' (by decide) (by decide) hcreate
  · simp [bodiesUp, hq, runInTurn, hbeside]
  · exact isResolved_nested (by decide) rfl (by decide) (by decide) (by decide) (by decide)
      (by decide) (by decide) hq' (by decide) (by decide) hq

namespace IsNested

variable {up names : List String}

/-- **A module that is imported for the first time** has the exports of its program. -/
theorem importUp (h : IsNested name up names) (hsurroundings : v.surroundings = nested.surroundings)
    (hmodules : v.modules = []) :
    (v.importUp up).2 = .ok () ∧
      ∃ m, (v.importUp up).1.modules.lookup name = some m ∧ m.exports = exporting.exports := by
  obtain ⟨rfl, -, ⟨locations, hfound⟩, hbody, hturn, -⟩ := h
  have hnew : ∀ n ∈ lineage name, v.isImported n = false := fun n _ => by
    rw [isImported, hmodules]
    rfl
  obtain ⟨-, hresult, hmodule⟩ := importUp_inTurn (areParts_up name) hnew
    ((findUp_congr hsurroundings _).trans hfound)
  rw [bodiesUp_congr hsurroundings, runInTurn_congr hsurroundings, hturn] at hresult
  obtain ⟨m, hm, -, hexports⟩ := hmodule hresult (up_ne_nil name)
  rw [nameUp_dottedParts] at hm hexports
  have hsame := hexports _ rfl
  rw [bodyAt_congr hsurroundings, hbody] at hsame
  exact ⟨hresult, m, hm, (Except.ok.inj hsame).symm⟩

/-- …and is loaded as what the program exports. -/
theorem attempt (h : IsNested name up names) (hsurroundings : v.surroundings = nested.surroundings)
    (hmodules : v.modules = []) :
    v.attempt "create" (nestedModule name names) =
      .ok ⟨name, ⟨.absolute, names⟩, .function "f"⟩ := by
  obtain ⟨hok, m, hm, hexports⟩ := h.importUp hsurroundings hmodules
  rw [← h.parts] at hok hm
  rw [nestedModule, attempt_found (exportsOf_of_importUp rfl h.identifiers hok hm), hexports,
    normalize_exporting]
  rfl

/-- **It loads on its own.** -/
theorem loadAlone (h : IsNested name up names) :
    ((Run.loadAlone nestedRules none name).run nested).2 =
      .ok ⟨name, ⟨.absolute, names⟩, .function "f"⟩ := by
  have hattempt := h.attempt (v := (nested.noteResolution (nestedRules.search none)
    (nestedModule name names)).noteLoading (nestedModule name names))
    (surroundings_noteResolution nested _ _) (modules_noteResolution nested _ _)
  rw [Run.loadAlone, run_bind, run_resolve h.resolved]
  refine (load_eq _ "create" (nestedModule name names)).trans ?_
  rw [hattempt]
  rfl

end IsNested

/-- The settings that switch rules on and off. -/
def switching (rules : List (String × Value)) : Config := { Config.default with rules := rules }

theorem isTame_nested : IsTame nested := fun e he => by
  have hraised : nested.tree.entries.map (raisedIn ·.2) = [none, none, none, none, none] := rfl
  have hmem := he.mem
  rw [hraised] at hmem
  simp at hmem

/-- **The module in the package takes the place** of what the package exports under its name. -/
theorem attempt_afterSubmodule (hsurroundings : v.surroundings = nested.surroundings)
    (hmodules : v.modules = []) :
    Loading.outcome ⟨"create", ofPackage⟩ (Loading.step ⟨"create", ofSubmodule⟩ v).1 =
      .error (.notCallable "p" "create") := by
  obtain ⟨hp, hcreate, -⟩ := isNested
  have hstep : (Loading.step ⟨"create", ofSubmodule⟩ v).1 =
      ((v.noteLoading ofSubmodule).importUp ["create", "p"]).1 := by
    rcases importModule_cases "p.create" with hnone | himport
    · exact absurd (hnone nested).1 (by decide)
    · rw [step_eq]
      exact (load_found _ _ _).trans ((himport _).2.trans (by rw [hcreate.parts]))
  have hnoted : (v.noteLoading ofSubmodule).surroundings = nested.surroundings := hsurroundings
  obtain ⟨-, m, hm, hexports⟩ := hp.importUp hnoted hmodules
  obtain ⟨hok, -⟩ := hcreate.importUp hnoted hmodules
  have hname : nameUp ["p"] = "p" ∧ nameUp ["create", "p"] = "p.create" := by decide
  have hnew : (v.noteLoading ofSubmodule).isImported (nameUp ["create", "p"]) = false := by
    rw [isImported_eq_false_iff]
    exact congrArg (List.lookup _) hmodules
  obtain ⟨exports, habove⟩ :=
    lookup_importUp_above (hcreate.parts ▸ areParts_up "p.create") (by decide) hnew hok
  rw [hname.1, hname.2, hm, Option.map_some, hexports, ← hstep] at habove
  obtain ⟨replaced, hreplaced, hentry⟩ : ∃ replaced : ImportedModule,
      (Loading.step ⟨"create", ofSubmodule⟩ v).1.modules.lookup "p" = some replaced ∧
        replaced.exports = insertEntry "create" (.module "p.create" exports) exporting.exports :=
    ⟨_, habove, rfl⟩
  -- importing the package once more finds it as the module in it has left it
  let u := (Loading.step ⟨"create", ofSubmodule⟩ v).1.noteLoading ofPackage
  have hlookup : u.modules.lookup "p" = some replaced := hreplaced
  have hknown : u.importUp (dottedParts "p").reverse = (u, .ok ()) :=
    hp.parts ▸ importUp_of_isImported (hname.1 ▸ isImported_iff.mpr ⟨_, hlookup⟩)
  have hexported : (u.exportsOf ⟨"p", ⟨.absolute, ["p", "__init__.py"]⟩, .package, some "p"⟩).2 =
      .ok (.module "p" replaced.exports) :=
    exportsOf_of_importUp rfl hp.identifiers (congrArg Prod.snd hknown) (by rw [hknown, hlookup])
  refine (attempt_found hexported "create").trans ?_
  rw [hentry, normalize_replaced]
  rfl

/-! ## Loads in any order -/

/-- **The rules are loaded in any order.**  The enabled rules are those that a configuration names in
a workspace where each of their names is resolved, and the loads are done in some order.  All names
are resolved first, as they are at the start, and nothing is run until then.

If each rule loads on its own, the rules come in the order of the configuration: each under its name,
with what its own load gives and with its configuration.  Otherwise the run fails to load one of the
rules that do not load on their own, and tells its name. -/
theorem loadRulesIn_schedule (hnames : config.enabledRules = .ok names)
    (hresolve : List.Forall₂ (IsResolved w family cwd) names rs)
    (hschedule : schedule.Perm (List.range names.length))
    (htame : IsTame w) (hapart : Apart w rs) (hfree : IsFree rs family.member) :
    (∃ w₁, (resolveAll family cwd names).run w = (w₁, .ok rs) ∧
        w₁.executed = w.executed ∧ w₁.modules = w.modules ∧
        ((loadRulesIn schedule family config cwd).run w).1 =
          (loadEach family.member rs w₁ schedule).1) ∧
      ((∀ name ∈ names, ∃ e, ((loadAlone family cwd name).run w).2 = .ok e) →
        ∃ rules, ((loadRulesIn schedule family config cwd).run w).2 = .ok rules ∧
          List.Forall₂ (fun name rule => ∃ e, ((loadAlone family cwd name).run w).2 = .ok e ∧
            rule = ⟨name, e.function.rule, config.ruleConfig name⟩) names rules) ∧
      ((¬ ∀ name ∈ names, ∃ e, ((loadAlone family cwd name).run w).2 = .ok e) →
        ∃ name ∈ names, (∀ e, ((loadAlone family cwd name).run w).2 ≠ .ok e) ∧
          ∃ cause, ((loadRulesIn schedule family config cwd).run w).2 =
            .error (.load (.ofCause name cause))) := by
  obtain ⟨w₁, hrun, hsurroundings, hmodules, hexecuted⟩ := run_resolveAll hresolve
  have hagrees : Agrees (IsPassed rs) w w₁ :=
    (Agrees.refl (IsPassed rs) w).congr hsurroundings fun n _ => by rw [hmodules]
  have hresults : AreResults w rs family.member (loadEach family.member rs w₁ schedule).2 :=
    areResults_loadEach htame hapart hfree hagrees (hresolve.length_eq ▸ hschedule)
  have halone : ∀ {name r}, IsResolved w family cwd name r → r ∈ rs → ∀ e,
      ((loadAlone family cwd name).run w).2 = .ok e ↔ w.attempt family.member r = .ok e :=
    fun hr hmem => loadAlone_gives_iff htame hapart hfree hr hmem
  have hloads : (loadRulesIn schedule family config cwd).run w = _ := run_loadRulesIn hnames hrun
  refine ⟨⟨w₁, hrun, hexecuted, hmodules, by rw [hloads]⟩, fun hall => ?_, fun hnotAll => ?_⟩
  · have hnone := hresults.firstFailure?_eq_none.mpr fun r hr => by
      obtain ⟨name, hin, hname⟩ := forall₂_right hresolve r hr
      obtain ⟨e, he⟩ := hall name hin
      exact ⟨e, (halone hname hr e).mp he⟩
    refine ⟨_, by rw [hloads, hnone], forall₂_numbered fun i name hname => ?_⟩
    obtain ⟨hi, rfl⟩ := List.getElem?_eq_some_iff.mp hname
    have hi' : i < rs.length := hresolve.length_eq ▸ hi
    obtain ⟨e, he⟩ := hall _ (List.getElem_mem hi)
    have hattempt := (halone (hresolve.get hi hi') (List.getElem_mem hi') e).mp he
    exact ⟨e, hresults.loaded?_eq (List.getElem?_eq_getElem hi') hattempt, he⟩
  · have hsome : firstFailure? (loadEach family.member rs w₁ schedule).2 ≠ none := fun hnone =>
      hnotAll fun name hin => by
        obtain ⟨r, hr, hname⟩ := forall₂_left hresolve name hin
        obtain ⟨e, he⟩ := hresults.firstFailure?_eq_none.mp hnone r hr
        exact ⟨e, (halone hname hr e).mpr he⟩
    obtain ⟨f, hf⟩ := Option.ne_none_iff_exists'.mp hsome
    obtain ⟨r, hr, hfails, cause, rfl⟩ := hresults.exists_of_firstFailure? hf
    obtain ⟨name, hin, hname⟩ := forall₂_right hresolve r hr
    refine ⟨name, hin, fun e he => hfails e ((halone hname hr e).mp he), cause, ?_⟩
    rw [hloads, hf, hname.name_eq]

/-- Two of the rules are on, the module beside the package first, and the loads are the other way
round: the rules come in their own order. -/
theorem loadRulesIn_schedule_nested :
    ((loadRulesIn [1, 0] nestedRules
      (switching [("q", .bool true), ("x", .bool false), ("p", .bool true)]) none).run nested).2 =
        .ok [⟨"q", (Callable.function "f").rule, .bool true⟩,
          ⟨"p", (Callable.function "f").rule, .bool true⟩] := by
  obtain ⟨hp, -, hq⟩ := isNested
  have hnames : (switching [("q", .bool true), ("x", .bool false), ("p", .bool true)]).enabledRules =
      .ok ["q", "p"] := rfl
  have hpassed : ∀ n, IsPassed [ofBeside, ofPackage] n → n = "q" ∨ n = "p" := by
    rintro n ⟨r, m, hr, hm, hn⟩
    have hlineage : lineage "q" = ["q"] ∧ lineage "p" = ["p"] := by decide
    rcases List.mem_pair.mp hr with hr | hr <;> obtain rfl := Resolution.found.inj hr <;>
      obtain rfl := Option.some.inj hm
    · exact Or.inl (List.mem_singleton.mp (hlineage.1 ▸ hn))
    · exact Or.inr (List.mem_singleton.mp (hlineage.2 ▸ hn))
  have hapart : Apart nested [ofBeside, ofPackage] := by
    intro r hr hfile
    rcases List.mem_pair.mp hr with hr | hr <;> obtain rfl := Resolution.found.inj hr <;> cases hfile
  have hfree : IsFree [ofBeside, ofPackage] nestedRules.member := by
    intro r m hr hm key hkey hsub
    have hkeys : key = "default" ∨ key = "create" := List.mem_pair.mp hkey
    rcases List.mem_pair.mp hr with hr | hr <;> obtain rfl := Resolution.found.inj hr <;>
      obtain rfl := Option.some.inj hm <;> rcases hkeys with rfl | rfl <;>
      exact absurd (hpassed _ hsub) (by decide)
  have horder : [1, 0].Perm (List.range ["q", "p"].length) := List.Perm.swap 0 1 []
  obtain ⟨-, hall, -⟩ := loadRulesIn_schedule hnames (.cons hq.resolved (.cons hp.resolved .nil))
    horder isTame_nested hapart hfree
  obtain ⟨rules, hrules, hpaired⟩ := hall fun name hname => by
    rcases List.mem_pair.mp hname with rfl | rfl
    · exact ⟨_, hq.loadAlone⟩
    · exact ⟨_, hp.loadAlone⟩
  rcases hpaired with _ | ⟨⟨e, he, rfl⟩, _ | ⟨⟨e', he', rfl⟩, _ | _⟩⟩
  obtain rfl := Except.ok.inj (hq.loadAlone.symm.trans he)
  obtain rfl := Except.ok.inj (hp.loadAlone.symm.trans he')
  exact hrules

/-- **The order may matter.**  The package and the module in it load on their own; but where the
module comes first, it takes the place of the callable of the package. -/
theorem loadRulesIn_nested :
    (switching [("p.create", .bool true), ("p", .bool true)]).enabledRules =
        .ok ["p.create", "p"] ∧
      (∀ name ∈ ["p.create", "p"], (∃ r, IsResolved nested nestedRules none name r) ∧
        ∃ e, ((loadAlone nestedRules none name).run nested).2 = .ok e) ∧
      IsTame nested ∧
      ((loadRulesIn [0, 1] nestedRules
        (switching [("p.create", .bool true), ("p", .bool true)]) none).run nested).2 =
          .error (.load (.ofCause "p" (.notCallable "p" "create"))) := by
  obtain ⟨hp, hcreate, -⟩ := isNested
  have hnames : (switching [("p.create", .bool true), ("p", .bool true)]).enabledRules =
      .ok ["p.create", "p"] := rfl
  refine ⟨hnames, fun name hname => ?_, isTame_nested, ?_⟩
  · rcases List.mem_pair.mp hname with rfl | rfl
    · exact ⟨⟨_, hcreate.resolved⟩, _, hcreate.loadAlone⟩
    · exact ⟨⟨_, hp.resolved⟩, _, hp.loadAlone⟩
  have hresolve : List.Forall₂ (IsResolved nested nestedRules none) ["p.create", "p"]
      [ofSubmodule, ofPackage] := .cons hcreate.resolved (.cons hp.resolved .nil)
  obtain ⟨w₁, hrun, hsurroundings, hmodules, -⟩ := run_resolveAll hresolve
  have hfirst : (Loading.step ⟨"create", ofSubmodule⟩ w₁).2 =
      .ok ⟨"p.create", ⟨.absolute, ["p", "create.py"]⟩, .function "f"⟩ := by
    rw [step_eq, load_eq]
    have hattempt := hcreate.attempt (v := w₁.noteLoading ofSubmodule) hsurroundings hmodules
    exact congrArg (Except.mapError _) hattempt
  have hlast : (Loading.step ⟨"create", ofPackage⟩ (Loading.step ⟨"create", ofSubmodule⟩ w₁).1).2 =
      .error (.load (.ofCause "p" (.notCallable "p" "create"))) := by
    have hattempt := attempt_afterSubmodule hsurroundings hmodules
    rw [step_eq, load_eq]
    exact congrArg (Except.mapError _) hattempt
  have hloads : (loadEach nestedRules.member [ofSubmodule, ofPackage] w₁ [0, 1]).2 =
      [(0, (Loading.step ⟨"create", ofSubmodule⟩ w₁).2),
        (1, (Loading.step ⟨"create", ofPackage⟩ (Loading.step ⟨"create", ofSubmodule⟩ w₁).1).2)] :=
    rfl
  rw [run_loadRulesIn hnames hrun, hloads, hfirst, hlast]
  rfl

end Run

end ProseLinter
