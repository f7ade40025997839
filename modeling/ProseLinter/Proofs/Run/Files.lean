import ProseLinter.Proofs.Extension.Load
import ProseLinter.Proofs.Rule.ThroughContext
import ProseLinter.Proofs.Work
import ProseLinter.Run

/-!
# Proofs/Run/Files — a run reads files and changes none

Whatever a run does is written to the log, and what it loads is remembered; its surroundings are the
same after it, whether or not it fails (`Run.keeps_lintPaths`).  So every file is linted as it was
at the start: a run gives results exactly if it finds files and loads rules and each of the files
can be linted under the rules, and then it gives the results for the files
(`Run.lintPaths_gives_iff`).
-/

namespace ProseLinter

/-- **Whatever is called as a rule reports through its context.** -/
theorem Callable.reportsThroughContext : ∀ c : Callable, c.rule.ReportsThroughContext
  | script s _ => Script.reportsThroughContext s
  | bundled b => BundledRule.reportsThroughContext b
  | silent _ => ⟨fun h => by cases h; exact .nil, fun h n made hmade => by
      cases h; cases hmade; exact .nil⟩
  | function _ => ⟨nofun, nofun⟩
  | maker _ => ⟨nofun, nofun⟩
  | helper _ => ⟨nofun, nofun⟩
  | reporter _ => ⟨nofun, nofun⟩

namespace Run

open Work Workspace

theorem surroundings_loadEach (member : String) (resolutions : List Resolution) :
    ∀ (w : Workspace) (schedule : List ℕ),
      (loadEach member resolutions w schedule).1.surroundings = w.surroundings
  | _, [] => rfl
  | w, i :: schedule => by
      rw [loadEach]
      split
      · exact surroundings_loadEach member resolutions w schedule
      · next r _ =>
        have h := surroundings_load (w.noteLoading r) member r
        rw [surroundings_noteLoading] at h
        exact (surroundings_loadEach member resolutions _ schedule).trans h

/-! ## What a run leaves alone -/

theorem keeps_note (level : LogLevel) (text : List Char) :
    Keeps surroundings (note level text) := fun _ => rfl

theorem keeps_resolveAll (family : Family) (cwd : Option Path) :
    ∀ names, Keeps surroundings (resolveAll family cwd names)
  | [] => .pure _
  | name :: names => by
      refine .bind (fun w => ?_) fun r => .bind (keeps_resolveAll family cwd names) fun _ => .pure _
      rw [Family.resolve, Work.resolve, run_ofStep]
      split
      · exact surroundings_noteResolution w _ _
      · rfl

theorem keeps_loadRulesIn (schedule : List ℕ) (family : Family) (config : Config)
    (cwd : Option Path) : Keeps surroundings (loadRulesIn schedule family config cwd) := by
  refine .bind (.ofExcept _) fun names => .bind (keeps_resolveAll family cwd names) fun rs =>
    .bind (fun w => surroundings_loadEach family.member rs w schedule) fun results => ?_
  split
  · exact .throw _
  · exact .pure _

theorem keeps_scan (config : Config) (paths : List Path) :
    Keeps surroundings (scan config paths) := by
  have hnotes : ∀ (excluded : List Path) (w : Workspace),
      (excluded.foldl (fun w p => w.note .debug scanLogger ("Excluded ".toList ++ p.chars))
        w).surroundings = w.surroundings := fun excluded => by
    induction excluded with
    | nil => exact fun _ => rfl
    | cons p excluded ih => exact fun w => ih _
  exact .bind (.ofExcept _) fun _ => .bind (.ofExcept _) fun _ => .bind (fun _ => rfl) fun found =>
    .bind (hnotes found.excluded) fun _ => .pure _

theorem keeps_lintFiles (rules : List ConfiguredRule) :
    ∀ files, Keeps surroundings (lintFiles rules files)
  | [] => .pure _
  | _ :: files => .bind (keeps_note _ _) fun _ => .bind (fun _ => rfl) fun _ =>
      .bind (.ofExcept _) fun _ => .bind (keeps_note _ _) fun _ =>
        .bind (keeps_lintFiles rules files) fun _ => .pure _

theorem keeps_asTask {α : Type} {work : Work α} (h : Keeps surroundings work) :
    Keeps surroundings (asTask work) := by
  refine .tryCatch h fun e => ?_
  split
  · split <;> exact .throw _
  · exact .throw _

/-- **A run changes no file**, whether or not it fails. -/
theorem keeps_lintPaths (home : Family.Home) (config : Config) (paths : List Path)
    (cwd : Option Path) : Keeps surroundings (lintPaths home config paths cwd) :=
  keeps_asTask <| .bind (keeps_scan config paths) fun files => .bind (keeps_note _ _) fun _ =>
    .bind (keeps_loadRulesIn _ _ config cwd) fun rules => .bind (keeps_note _ _) fun _ =>
      .bind (keeps_lintFiles rules files) fun _ => .bind (keeps_note _ _) fun _ => .pure _

/-! ## What a run gives -/

/-- Documents are read from the surroundings. -/
theorem documentAt_congr {w w' : Workspace} (h : w'.surroundings = w.surroundings) (p : Path) :
    documentAt w' p = documentAt w p := by
  obtain ⟨htree, hrest⟩ := Prod.mk.inj h
  obtain ⟨hcwd, -⟩ := Prod.mk.inj hrest
  rw [documentAt, documentAt, htree, hcwd]

/-- **The document in a file** is its text with the line breaks made one. -/
theorem documentAt_eq_ok_iff {w : Workspace} {p : Path} {document : Document} :
    documentAt w p = .ok document ↔
      ∃ content cs, w.tree.read w.cwd p = .ok content ∧
        Text.decode? content.toBytes = some cs ∧ document = ⟨Text.lineFeeds cs, some p.text⟩ := by
  rw [documentAt]
  cases w.tree.read w.cwd p with
  | error fault => simp
  | ok content =>
    cases hdecode : Text.decode? content.toBytes with
    | none => simp [textOf, hdecode, bind, Except.bind]
    | some cs => simp [textOf, hdecode, bind, Except.bind, pure, Except.pure, eq_comm]

/-- **The result for a file**: the messages on the document that the file holds. -/
def ResultOf (w : Workspace) (rules : List ConfiguredRule) (p : Path) (result : LintResult) :
    Prop :=
  result.path = p.text ∧ ∃ document, documentAt w p = .ok document ∧
    Lint.run document .none rules = .ok result.messages

theorem ResultOf.congr {w w' : Workspace} (h : w'.surroundings = w.surroundings)
    {rules : List ConfiguredRule} {p : Path} {result : LintResult} :
    ResultOf w' rules p result ↔ ResultOf w rules p result := by
  rw [ResultOf, ResultOf, documentAt_congr h]

/-- **Files are linted one by one**, as they are at the start. -/
theorem lintFiles_gives_iff {rules : List ConfiguredRule} :
    ∀ {files : List Path} {w : Workspace} {results : List LintResult},
      ((lintFiles rules files).run w).2 = .ok results ↔
        List.Forall₂ (ResultOf w rules) files results
  | [], w, results => by
      rw [lintFiles, run_pure, List.forall₂_nil_left_iff]
      exact ⟨fun h => (Except.ok.inj h).symm, fun h => h ▸ rfl⟩
  | p :: files, w, results => by
      rw [lintFiles, note, run_update_bind, bind_gives_iff, List.forall₂_cons_left_iff]
      constructor
      · rintro ⟨document, hdocument, h⟩
        obtain ⟨messages, hmessages, h⟩ := bind_gives_iff.mp h
        rw [note, run_update_bind] at h
        obtain ⟨rest, hrest, h⟩ := bind_gives_iff.mp h
        obtain rfl := Except.ok.inj h
        exact ⟨⟨p.text, messages⟩, rest, ⟨rfl, document, hdocument, hmessages⟩,
          (lintFiles_gives_iff.mp hrest).imp fun _ _ => (ResultOf.congr rfl).mp, rfl⟩
      · rintro ⟨⟨path, messages⟩, rest, ⟨rfl, document, hdocument, hmessages⟩, hrest, rfl⟩
        refine ⟨document, hdocument, bind_gives_iff.mpr ⟨messages, hmessages, ?_⟩⟩
        rw [note, run_update_bind]
        exact bind_gives_iff.mpr ⟨rest,
          lintFiles_gives_iff.mpr (hrest.imp fun _ _ => (ResultOf.congr rfl).mpr), rfl⟩

/-- A task gives what its work gives. -/
theorem asTask_gives_iff {α : Type} {work : Work α} {w : Workspace} {a : α} :
    ((asTask work).run w).2 = .ok a ↔ (work.run w).2 = .ok a := by
  rw [asTask, run_tryCatch]
  rcases work.run w with ⟨w', e | a'⟩
  · cases e with
    | raised exception =>
      simp only
      split <;> simp
    | _ => simp
  · rfl

/-- **The files and the rules of a run**: those that its scan finds, and those that it loads
afterwards. -/
structure Prepares (home : Family.Home) (config : Config) (paths : List Path) (cwd : Option Path)
    (w : Workspace) (files : List Path) (rules : List ConfiguredRule) : Prop where
  scan : ((scan config paths).run w).2 = .ok files
  load : ((loadRules (Family.rules home) config cwd).run
    (((Run.scan config paths).run w).1.note .info logger
      ("Found ".toList ++ Integer.text files.length ++ " files".toList))).2 = .ok rules

/-- **A run gives a result** if files are found, rules are loaded and every file can be linted; then
it gives the results for the files. -/
theorem lintPaths_gives_iff {home : Family.Home} {config : Config} {paths : List Path}
    {cwd : Option Path} {w : Workspace} {run : LintRun} :
    ((lintPaths home config paths cwd).run w).2 = .ok run ↔
      ∃ files rules, Prepares home config paths cwd w files rules ∧
        List.Forall₂ (ResultOf w rules) files run.results := by
  -- the files are linted in another workspace, but nothing around it has changed
  have hkept : ∀ text : List Char, ((loadRules (Family.rules home) config cwd).run
      (((scan config paths).run w).1.note .info logger text)).1.surroundings = w.surroundings :=
    fun text => (keeps_loadRulesIn _ _ config cwd _).trans (keeps_scan config paths w)
  rw [lintPaths, asTask_gives_iff, bind_gives_iff]
  refine ⟨fun ⟨files, hscan, h⟩ => ?_, fun ⟨files, rules, hprepares, hresults⟩ => ?_⟩
  · rw [note, run_update_bind] at h
    obtain ⟨rules, hload, h⟩ := bind_gives_iff.mp h
    rw [note, run_update_bind] at h
    obtain ⟨results, hlint, h⟩ := bind_gives_iff.mp h
    obtain rfl := LintRun.mk.inj (Except.ok.inj h)
    refine ⟨files, rules, ⟨hscan, hload⟩, (lintFiles_gives_iff.mp hlint).imp fun _ _ => ?_⟩
    exact (ResultOf.congr (by rw [surroundings_note, hkept])).mp
  · refine ⟨files, hprepares.scan, ?_⟩
    rw [note, run_update_bind]
    refine bind_gives_iff.mpr ⟨rules, hprepares.load, ?_⟩
    rw [note, run_update_bind]
    refine bind_gives_iff.mpr
      ⟨run.results, lintFiles_gives_iff.mpr (hresults.imp fun _ _ => ?_), rfl⟩
    exact (ResultOf.congr (by rw [surroundings_note, hkept])).mpr

/-! ## The rules of a run -/

/-- One rule is loaded from where its name leads. -/
theorem loadRules_of_one {family : Family} {config : Config} {cwd : Option Path} {w : Workspace}
    {name : String} {r : Resolution} {e : Extension} (hlength : config.rules.length = 1)
    (henabled : config.enabledRules = .ok [name])
    (hresolve : w.resolve (family.search cwd) name = .ok r)
    (hload : ∀ w' : Workspace, w'.surroundings = w.surroundings →
      (w'.load family.member r).2 = .ok e) :
    ((loadRules family config cwd).run w).2 =
      .ok [⟨name, e.function.rule, config.ruleConfig name⟩] := by
  have hresolved : (resolveAll family cwd [name]).run w =
      (w.noteResolution (family.search cwd) r, .ok [r]) := by
    rw [resolveAll, run_bind, Family.resolve, Work.resolve, run_ofStep, hresolve]
    rfl
  have hloaded := hload ((w.noteResolution (family.search cwd) r).noteLoading r) (by simp)
  rw [loadRules, loadRulesIn, hlength, henabled]
  refine bind_gives_iff.mpr ⟨[name], rfl, ?_⟩
  rw [run_ofExcept, run_bind, hresolved]
  refine bind_gives_iff.mpr ⟨[(0, .ok e)], ?_, rfl⟩
  rw [← hloaded]
  rfl

/-- A run over one file, with rules that are loaded in whatever state the scan leaves. -/
theorem lintPaths_of_one {home : Family.Home} {config : Config} {paths : List Path}
    {cwd : Option Path} {w : Workspace} {p : Path} {document : Document}
    {rules : List ConfiguredRule} {messages : List LintMessage}
    (hscan : ((scan config paths).run w).2 = .ok [p])
    (hload : ∀ w' : Workspace, w'.surroundings = w.surroundings →
      ((loadRules (Family.rules home) config cwd).run w').2 = .ok rules)
    (hdocument : documentAt w p = .ok document)
    (hlint : Lint.run document .none rules = .ok messages) :
    ((lintPaths home config paths cwd).run w).2 = .ok ⟨[⟨p.text, messages⟩]⟩ :=
  lintPaths_gives_iff.mpr ⟨[p], rules, ⟨hscan, hload _ (keeps_scan config paths w)⟩,
    .cons ⟨rfl, document, hdocument, hlint⟩ .nil⟩

section

variable {family : Family} {config : Config} {cwd : Option Path} {w : Workspace}
  {rules : List ConfiguredRule} {r : ConfiguredRule}

/-- **A rule of a run** is a callable of an extension, under an enabled name and with what is
configured for that name. -/
theorem exists_extension_of_loadRules (h : ((loadRules family config cwd).run w).2 = .ok rules)
    (hr : r ∈ rules) :
    ∃ names name, ∃ e : Extension, config.enabledRules = .ok names ∧ name ∈ names ∧
      r = ⟨name, e.function.rule, config.ruleConfig name⟩ := by
  rw [loadRules, loadRulesIn] at h
  obtain ⟨names, hnames, h⟩ := bind_gives_iff.mp h
  obtain ⟨resolutions, -, h⟩ := bind_gives_iff.mp h
  obtain ⟨results, -, h⟩ := bind_gives_iff.mp h
  split at h
  · cases h
  · obtain rfl := Except.ok.inj h
    obtain ⟨⟨name, i⟩, hmem, hload⟩ := List.mem_filterMap.mp hr
    obtain ⟨e, -, rfl⟩ := Option.map_eq_some_iff.mp hload
    exact ⟨names, name, e, hnames, (List.of_mem_zip hmem).1, rfl⟩

/-- **The rules of a run report through their contexts**: they are callables of extensions. -/
theorem reportsThroughContext_of_loadRules
    (h : ((loadRules family config cwd).run w).2 = .ok rules) :
    ∀ r ∈ rules, r.rule.ReportsThroughContext := by
  intro r hr
  obtain ⟨-, -, e, -, -, rfl⟩ := exists_extension_of_loadRules h hr
  exact e.function.reportsThroughContext

end

end Run

end ProseLinter
