import ProseLinter.Proofs.Layout.Totals
import ProseLinter.Proofs.Lint.Run
import ProseLinter.Proofs.Run.Files

/-!
# Proofs/Run/Reports — the reports on a run tell the same story

Nothing that is switched off is among the messages of a run (`Run.severity_ne_off`), so each layout
counts the same messages, and the exit code tells whether there are errors among them
(`Run.consistent_lintPaths`).  A layout has to be able to write the messages: where a rule reports
an index with too many digits, the message is counted and has no report in JSON
(`Run.lintPaths_unreported`).
-/

namespace ProseLinter

/-- **The reports on a run tell the same story**: the total is the number of its messages in each
layout, and that of errors and warnings together; the exit code is one if there are errors. -/
structure LintRun.Consistent (run : LintRun) (total errors warnings : ℕ) : Prop where
  total_eq : total = (LintResult.allMessages run.results).length
  errors_add_warnings : errors + warnings = total
  exitCode_eq_one_iff : run.exitCode = 1 ↔ 0 < errors
  stylish : Reporter.stylish.Counts run.results [total, errors, warnings]
  compact : Reporter.compact.Counts run.results [total]
  unix : Reporter.unix.Counts run.results [total]
  json : Reporter.Lists run.results

namespace Run

variable {home : Family.Home} {config : Config} {paths : List Path} {cwd : Option Path}
  {w : Workspace} {run : LintRun}

/-- **No message of a run is switched off.** -/
theorem severity_ne_off (h : ((lintPaths home config paths cwd).run w).2 = .ok run) :
    ∀ m ∈ LintResult.allMessages run.results, m.severity ≠ .off := by
  intro m hm
  obtain ⟨files, rules, -, hresults⟩ := lintPaths_gives_iff.mp h
  obtain ⟨result, hresult, hm⟩ := List.mem_flatMap.mp hm
  obtain ⟨p, -, -, document, -, hrun⟩ := forall₂_right hresults result hresult
  obtain ⟨-, placed, hplaced, hsorted⟩ := Lint.run_eq_ok_iff_stablySorted.mp hrun
  exact (hplaced.spec (hsorted.perm.mem_iff.mp hm)).1

theorem exitCode_eq_one_iff (run : LintRun) : run.exitCode = 1 ↔
    0 < (Summary.ofMessages (LintResult.allMessages run.results)).errors := by
  rw [← LintResult.hasErrors_iff, LintRun.exitCode]
  split <;> simp_all

/-- **All reports of one run tell the same story.** -/
theorem consistent_lintPaths (h : ((lintPaths home config paths cwd).run w).2 = .ok run) :
    run.Consistent (LintResult.allMessages run.results).length
      (Summary.ofMessages (LintResult.allMessages run.results)).errors
      (Summary.ofMessages (LintResult.allMessages run.results)).warnings where
  total_eq := rfl
  errors_add_warnings := Summary.total_eq_length (severity_ne_off h)
  exitCode_eq_one_iff := exitCode_eq_one_iff run
  stylish := Reporter.counts_stylish (severity_ne_off h)
  compact := Reporter.counts_compact (severity_ne_off h)
  unix := Reporter.counts_unix
  json := Reporter.lists_json run.results

/-! ### A message without a report -/

namespace Distant

/-- A rule that reports a place far from the line that it sees. -/
def script (index : ℤ) : Script :=
  ⟨[], some [("Str", [⟨⟨none, none⟩,
    .report .node (.value (.finding ⟨.text "far", .int index, .none, .none, .none⟩))⟩])]⟩

def program (index : ℤ) : Program :=
  ⟨none, true, none, [("create", .callable (.script (script index) "create"))]⟩

/-- The rule beside a file of one line. -/
def tree (index : ℤ) : Entry FileContent :=
  .directory [("r.py", .file (.source (program index))), ("f.md", .file (.bytes [0x61]))]

def workspace (index : ℤ) : Workspace := ⟨tree index, [], [], [], [], []⟩

def settings : Config := ⟨none, [.text "*.md"], [], "json", false, [("r.py", .bool true)]⟩

def file : Path := ⟨.absolute, ["f.md"]⟩

def rulePath : Path := ⟨.relative, ["r.py"]⟩

def document : Document := ⟨['a'], some "/f.md"⟩

def configured (index : ℤ) : ConfiguredRule :=
  ⟨"r.py", (Callable.script (script index) "create").rule, .bool true⟩

def report (index : ℤ) : Report :=
  ⟨"r.py", .node ⟨Document.lineKind, 0, 1, ['a'], 1⟩, .error,
    .finding ⟨.text "far", .int index, .none, .none, .none⟩⟩

def message (index : ℤ) : LintMessage :=
  ⟨"r.py", .text "far", 0 + index, (Document.position ['a'] (0 + index)).line,
    (Document.position ['a'] (0 + index)).column, .error, none⟩

def outcome (index : ℤ) : LintRun := ⟨[⟨file.text, [message index]⟩]⟩

section

variable {w : Workspace} {index : ℤ} (h : w.surroundings = (workspace index).surroundings)

include h

theorem tree_eq : w.tree = tree index ∧ w.cwd = [] := by
  obtain ⟨htree, hrest⟩ := Prod.mk.inj h
  exact ⟨htree, (Prod.mk.inj hrest).1⟩

theorem resolve_eq : w.resolve ((Family.rules ⟨.top⟩).search none) "r.py" =
    .ok (.found ⟨"r.py", rulePath, .file, none⟩) := by
  have hgiven : w.isFile (.ofText "r.py") = true := by
    rw [Workspace.isFile, (tree_eq h).1, (tree_eq h).2]
    cbv
  rw [Workspace.resolve, if_neg (by decide)]
  simp only [hgiven, if_true]
  rfl

theorem load_eq : (w.load "create" (.found ⟨"r.py", rulePath, .file, none⟩)).2 =
    .ok ⟨"r.py", rulePath, .script (script index) "create"⟩ := by
  obtain ⟨htree, hcwd⟩ := tree_eq h
  have hresolve : w.tree.resolve w.cwd rulePath = .ok ⟨.absolute, ["r.py"]⟩ := by
    rw [htree, hcwd]
    cbv
  have hread : w.tree.read w.cwd ⟨.absolute, ["r.py"]⟩ = .ok (.source (program index)) := by
    rw [htree, hcwd]
    cbv
  exact Workspace.load_program rfl hresolve hread (by decide) rfl rfl rfl rfl

theorem loadRules_eq : ((loadRules (Family.rules ⟨.top⟩) settings none).run w).2 =
    .ok [configured index] := by
  have henabled : settings.enabledRules = .ok ["r.py"] := rfl
  have hload : ∀ w' : Workspace, w'.surroundings = w.surroundings →
      (w'.load "create" (.found ⟨"r.py", rulePath, .file, none⟩)).2 =
        .ok ⟨"r.py", rulePath, .script (script index) "create"⟩ := fun w' h' => load_eq (h'.trans h)
  exact loadRules_of_one rfl henabled (resolve_eq h) hload

end

theorem lint_eq (index : ℤ) :
    Lint.run document .none [configured index] = .ok [message index] := by
  have hreports : Lint.reports document .none [configured index] = .ok [report index] := by cbv
  rw [Lint.run, hreports]
  exact bind_eq_ok_iff.mpr ⟨_, rfl, bind_eq_ok_iff.mpr ⟨[message index], rfl,
    congrArg Except.ok (List.mergeSort_singleton _)⟩⟩

/-- **The run on the file** gives one message, at the index that the rule reports. -/
theorem lintPaths_eq (index : ℤ) :
    ((lintPaths ⟨.top⟩ settings [file] none).run (workspace index)).2 =
      .ok (outcome index) := by
  have hscan : ((scan settings [file]).run (workspace index)).2 = .ok [file] := by cbv
  have hdocument : documentAt (workspace index) file = .ok document := by cbv
  exact lintPaths_of_one hscan (fun _ => loadRules_eq) hdocument (lint_eq index)

/-- An index with too many digits is not written. -/
theorem format_json_eq (colors : Bool) :
    Reporter.json.format colors (.lint (outcome Integer.tooLong).results) =
      .error .tooManyDigits := by
  have hindex : (Value.int (0 + Integer.tooLong)).toJson = .error .tooManyDigits := by
    rw [zero_add, Value.toJson, if_neg (by rw [Integer.isWritable_tooLong]; decide)]
  have hmessage : (message Integer.tooLong).toJson = .error .tooManyDigits :=
    bind_eq_error_iff.mpr (.inr ⟨_, rfl, bind_eq_error_iff.mpr (.inl hindex)⟩)
  have hresult : LintResult.toJson ⟨file.text, [message Integer.tooLong]⟩ = .error .tooManyDigits :=
    bind_eq_error_iff.mpr (.inl (bind_eq_error_iff.mpr (.inl hmessage)))
  exact bind_eq_error_iff.mpr (.inl (bind_eq_error_iff.mpr (.inl hresult)))

end Distant

/-- The run on a file with one error, and what the stylish layout tells of it. -/
theorem consistent_lintPaths_distant :
    ((lintPaths ⟨.top⟩ Distant.settings [Distant.file] none).run (Distant.workspace 7)).2 =
        .ok (Distant.outcome 7) ∧
      (Distant.outcome 7).exitCode = 1 ∧
      ∃ text, Reporter.stylish.format true (.lint (Distant.outcome 7).results) = .ok text ∧
        text ≠ [] ∧ numbersIn (Layout.closing text) = [1, 1, 0] := by
  have h := consistent_lintPaths (Distant.lintPaths_eq 7)
  have hwritable : ∀ m ∈ LintResult.allMessages (Distant.outcome 7).results, m.IsWritable := by
    intro m hm
    obtain rfl := List.mem_singleton.mp hm
    exact ⟨Integer.isWritable_iff.mpr (by decide), Integer.isWritable_iff.mpr (by decide), _, rfl⟩
  obtain ⟨text, htext⟩ := (h.stylish.isOk_iff true).mpr hwritable
  exact ⟨Distant.lintPaths_eq 7, h.exitCode_eq_one_iff.mpr (by decide), text, htext,
    fun hnil => absurd ((h.stylish.eq_nil_iff true text htext).mp hnil) (by decide),
    h.stylish.closing true text htext (by decide)⟩

/-- **A message that is counted and has no report in JSON**: its index has too many digits. -/
theorem lintPaths_unreported :
    ∃ home config paths cwd w run, ((lintPaths home config paths cwd).run w).2 = .ok run ∧
      (LintResult.allMessages run.results).length = 1 ∧
      ∀ colors, Reporter.json.format colors (.lint run.results) = .error .tooManyDigits :=
  ⟨_, _, _, _, _, _, Distant.lintPaths_eq Integer.tooLong, rfl, Distant.format_json_eq⟩

end Run

end ProseLinter
