import ProseLinter.Extension.Bundled
import ProseLinter.Proofs.FileTree.LinkFree
import ProseLinter.Proofs.Lint.Noninterference
import ProseLinter.Proofs.Rule.TrailingSpaces
import ProseLinter.Proofs.Run.Files
import ProseLinter.Proofs.Text.LineBreaks

/-!
# Proofs/Rule/TrailingSpaces/InFiles — where the fixes of a run are in the files

A fix removes the blanks at the end of a line, and its range is that of the blanks in the text that
was linted (`exists_ending_of_flagged`).  A run lints a file with its line breaks made one, so
in the file the blanks stand further back: by one character for each carriage return with a line
feed after it that stands before them (`lintPaths_fix`).  Only where there is none does the range
name the blanks in the file, and `lintPaths_fix_displaced` is a file where it does not.
-/

namespace ProseLinter

open Document Text

namespace TrailingSpaces

variable {text : List Char} {n : TextNode} {w : Workspace}

/-! ## Where the blanks are -/

/-- **Blanks at the end of a line**, with what stands before and after them in a text. -/
structure Ending (text before blanks after : List Char) : Prop where
  text_eq : text = before ++ blanks ++ after
  ne_nil : blanks ≠ []
  blank : ∀ c ∈ blanks, isTrailing c = true
  ended : after.head? ∈ [none, some '\n', some '\r']

/-- What is trimmed from a line is blank. -/
theorem exists_trimmed_append (raw : List Char) :
    ∃ blanks, raw = trimmed raw ++ blanks ∧ ∀ c ∈ blanks, isTrailing c = true :=
  ⟨_, (trimmed_append raw).symm, fun _ hc =>
    List.mem_takeWhile_imp (List.mem_reverse.mp hc)⟩

/-- **A flagged line ends in blanks**, and its fix removes them. -/
theorem exists_ending_of_flagged {skipBlank : Bool} (hn : n ∈ flagged skipBlank text) :
    ∃ before blanks after, Ending text before blanks after ∧ cut n = before.length ∧
      rawStop n = before.length + blanks.length := by
  obtain ⟨hmem, hflags⟩ := List.mem_filter.mp hn
  obtain ⟨k, ret, h⟩ := exists_showsRow_of_mem hmem
  obtain ⟨before, after, happ, hlen⟩ := exists_append_row h.row
  obtain ⟨blanks, hraw, hblank⟩ := exists_trimmed_append n.raw
  have hlength : n.raw.length = (trimmed n.raw).length + blanks.length := by
    rw [← List.length_append, ← hraw]
  have hcut : cut n = ((before ++ trimmed n.raw).length : ℕ) := by
    rw [cut, h.start_eq, ← hlen, List.length_append, Int.natCast_add]
  refine ⟨before ++ trimmed n.raw, blanks, (ret ++ '\n' :: after).dropLast, ?_, hcut, ?_⟩
  · refine ⟨?_, ?_, hblank, ?_⟩
    · have htext := congrArg List.dropLast happ
      rw [List.dropLast_concat, hraw] at htext
      rw [htext, ← List.dropLast_append_of_ne_nil (by simp)]
      simp
    · rintro rfl
      exact (length_trimmed_lt hflags).ne (by simpa using hlength.symm)
    · rcases h.ret_eq with rfl | rfl <;> cases after <;> simp
  · rw [rawStop, hlength, ← hcut, cut]
    omega

/-! ## Where the blanks are in a file -/

/-- **The blanks were in the text before its line breaks were made one**, further back by the pairs
before them. -/
theorem Ending.exists_of_lineFeeds {cs before blanks after : List Char}
    (h : Ending (lineFeeds cs) before blanks after) :
    ∃ before' after', Ending cs before' blanks after' ∧
      before.length + returnPairs before' = before'.length := by
  have hfeed : '\n' ∉ blanks := fun hmem => absurd (h.blank _ hmem) (by decide)
  obtain ⟨before', after', hcs, rfl, rfl⟩ :=
    exists_append_of_lineFeeds_eq_append hfeed h.ne_nil h.text_eq
  exact ⟨before', after', ⟨hcs, h.ne_nil, h.blank, head?_mem_of_lineFeeds h.ended⟩,
    length_lineFeeds_add_returnPairs before'⟩

/-- **A message fixes blanks of a text** if its fix takes away the blanks at the end of a line, at
their offsets less the pairs of carriage return and line feed before them. -/
def FixesEnding (cs : List Char) (m : LintMessage) : Prop :=
  ∃ before blanks after, Ending cs before blanks after ∧
    m.fix = some ⟨.int (before.length - returnPairs before),
      .int (before.length - returnPairs before + blanks.length), .text ""⟩

/-- **A result fixes blanks of its file**: the file holds a text, and each message of the rule on
trailing spaces fixes blanks of that text. -/
def FixesFile (w : Workspace) (rules : List ConfiguredRule) (p : Path) (result : LintResult) :
    Prop :=
  result.path = p.text ∧
    ∃ content cs, w.tree.read w.cwd p = .ok content ∧ decode? content.toBytes = some cs ∧
      ∀ m ∈ result.messages,
        (∀ r ∈ rules, r.name = m.ruleId → r.rule = BundledRule.trailingSpaces.rule) →
          FixesEnding cs m

/-- **The fixes of a run in the files.**  The results of a run are those for the files that it
finds, under the rules that it loads, and each of them fixes blanks of its file. -/
theorem lintPaths_fix {home : Family.Home} {config : Config} {paths : List Path}
    {cwd : Option Path} {run : LintRun}
    (h : ((Run.lintPaths home config paths cwd).run w).2 = .ok run) :
    ∃ files rules, Run.Prepares home config paths cwd w files rules ∧
      List.Forall₂ (FixesFile w rules) files run.results := by
  obtain ⟨files, rules, hprepares, hresults⟩ := Run.lintPaths_gives_iff.mp h
  refine ⟨files, rules, hprepares, hresults.imp ?_⟩
  rintro p result ⟨hpath, document, hdocument, hrun⟩
  obtain ⟨content, cs, hread, hdecode, rfl⟩ := Run.documentAt_eq_ok_iff.mp hdocument
  refine ⟨hpath, content, cs, hread, hdecode, fun m hm hbundled => ?_⟩
  -- the message is one of the rule by itself
  have hthrough := Run.reportsThroughContext_of_loadRules hprepares.load
  obtain ⟨⟨name, rule, ruleConfig⟩, hr, hname, own, hown, hmem⟩ :=
    Lint.exists_own_of_mem_run hthrough hrun hm
  obtain rfl : rule = TrailingSpaces.rule := hbundled _ hr hname
  obtain ⟨severity, n, hn, rfl⟩ := exists_flagged_of_mem_run hown hmem
  obtain ⟨before, blanks, after, hending, hcut, hstop⟩ := exists_ending_of_flagged hn
  obtain ⟨before', after', hending', hlength⟩ := hending.exists_of_lineFeeds
  refine ⟨before', blanks, after', hending', ?_⟩
  have hstart : (before.length : ℤ) = before'.length - returnPairs before' := by omega
  rw [messageOn, fixFor, hcut, hstop, hstart]

/-! ### A file with such a pair -/

namespace Paired

/-- The rules that come with the linter, beside a file of two lines: the first one ends in a
carriage return and a line feed, and the second one in blanks. -/
def tree : Entry FileContent :=
  .directory [("rules", Bundled.rules),
    ("f.md", .file (.bytes [0x61, 0x0D, 0x0A, 0x62, 0x20, 0x20, 0x0A]))]

def workspace : Workspace := ⟨tree, [], [], [], [], []⟩

def settings : Config :=
  ⟨none, [.text "*.md"], [], "json", false, [("trailing_spaces", .bool true)]⟩

def file : Path := ⟨.absolute, ["f.md"]⟩

def rulePath : Path := ⟨.absolute, ["rules", "trailing_spaces.py"]⟩

def program : Program :=
  ⟨none, true, none, ("create", .callable (.bundled .trailingSpaces)) ::
    (Bundled.ruleHelpers ++ [Bundled.helper "Final"])⟩

def message : LintMessage :=
  ⟨"trailing_spaces", .text "Trailing whitespace", 3, 2, 2, .error,
    some ⟨.int 3, .int 5, .text ""⟩⟩

theorem linkFree_tree : tree.LinkFree := ⟨by decide, by decide, by decide⟩

theorem at?_rulePath : tree.at? rulePath.names = some (.file (.source program)) := by rfl

/-- The rule is found among the bundled ones. -/
theorem resolve_name (htree : w.tree = tree) (hcwd : w.cwd = []) :
    w.resolve ((Family.rules ⟨.top⟩).search none) "trailing_spaces" =
      .ok (.found ⟨"trailing_spaces", rulePath, .bundled, none⟩) := by
  have hfree : w.tree.LinkFree := htree ▸ linkFree_tree
  have hmissing : w.tree.at? ["trailing_spaces"] = none := by rw [htree]; rfl
  have hat : w.tree.at? rulePath.names = _ := htree ▸ at?_rulePath
  have hname : Path.ofText "trailing_spaces" = ⟨.relative, ["trailing_spaces"]⟩ := by decide
  have hcandidates : ((Family.rules ⟨.top⟩).search none).bundledCandidates "trailing_spaces" =
      [rulePath, ⟨.absolute, ["rules", "trailing_spaces.pyc"]⟩] := by decide
  have hparent : (rulePath.parent == ((Family.rules ⟨.top⟩).search none).bundled) = true := by
    decide
  have hbundled : w.isFile rulePath = true := by
    have hfile : w.isFile ⟨.absolute, rulePath.names⟩ = _ := Workspace.isFile_eq hfree (by decide)
    rwa [hat] at hfile
  have hresolve : w.tree.resolve w.cwd (w.cwdPath.append (.ofText "trailing_spaces")) =
      .ok ⟨.absolute, ["trailing_spaces"]⟩ := by
    rw [hname, Workspace.cwdPath, hcwd]
    exact hfree.resolve_eq (by decide) (by decide) (by decide)
  refine Workspace.resolve_bundled (by decide) ?_ hresolve ?_ ?_
  · rw [hname]
    exact Workspace.isFile_relative_eq_false hfree (by decide) (by rw [hcwd]; exact hmissing ▸ rfl)
  · rw [Workspace.isFile_eq hfree (by decide), hmissing]
    rfl
  · rw [Workspace.bundledFile?, hcandidates]
    exact List.find?_cons_of_pos (by rw [hparent, hbundled]; rfl)

/-- The rule is loaded from where it is found. -/
theorem load_rulePath (htree : w.tree = tree) (hcwd : w.cwd = []) :
    (w.load "create" (.found ⟨"trailing_spaces", rulePath, .bundled, none⟩)).2 =
      .ok ⟨"trailing_spaces", rulePath, .bundled .trailingSpaces⟩ := by
  have hread : w.tree.read w.cwd rulePath = .ok (.source program) := by
    rw [htree]
    exact linkFree_tree.read_eq (by decide) w.cwd at?_rulePath
  refine Workspace.load_program rfl ?_ hread (by decide) rfl rfl (by decide) rfl
  rw [htree, hcwd]
  exact linkFree_tree.resolve_eq (by decide) (by decide) (by decide)

theorem loadRules_eq (htree : w.tree = tree) (hcwd : w.cwd = []) :
    ((Run.loadRules (Family.rules ⟨.top⟩) settings none).run w).2 =
      .ok [⟨"trailing_spaces", BundledRule.trailingSpaces.rule, .bool true⟩] := by
  have henabled : settings.enabledRules = .ok ["trailing_spaces"] := rfl
  have hload : ∀ w' : Workspace, w'.surroundings = w.surroundings →
      (w'.load "create" (.found ⟨"trailing_spaces", rulePath, .bundled, none⟩)).2 =
        .ok ⟨"trailing_spaces", rulePath, .bundled .trailingSpaces⟩ := fun w' h => by
    obtain ⟨htree', hrest⟩ := Prod.mk.inj h
    exact load_rulePath (htree'.trans htree) ((Prod.mk.inj hrest).1.trans hcwd)
  exact Run.loadRules_of_one rfl henabled (resolve_name htree hcwd) hload

/-- The file is found, and the rule is loaded. -/
theorem prepares : Run.Prepares ⟨.top⟩ settings [file] none workspace [file]
    [configured "trailing_spaces" (.bool true)] where
  scan := by cbv
  load := by
    obtain ⟨htree, hrest⟩ := Prod.mk.inj (Run.keeps_scan settings [file] workspace)
    exact loadRules_eq htree (Prod.mk.inj hrest).1

theorem documentAt_eq : Run.documentAt workspace file =
    .ok ⟨['a', '\n', 'b', ' ', ' ', '\n'], some "/f.md"⟩ := by
  cbv

/-- **The run on the file** gives one message, with a fix from offset 3 to offset 5. -/
theorem lintPaths_eq :
    ((Run.lintPaths ⟨.top⟩ settings [file] none).run workspace).2 =
      .ok ⟨[⟨"/f.md", [message]⟩]⟩ := by
  have hlint : Lint.run ⟨['a', '\n', 'b', ' ', ' ', '\n'], some "/f.md"⟩ .none
      [configured "trailing_spaces" (.bool true)] = .ok [message] := by cbv
  exact Run.lintPaths_gives_iff.mpr
    ⟨_, _, prepares, .cons ⟨by decide, _, documentAt_eq, hlint⟩ .nil⟩

end Paired

/-- The run on the file of two lines, as one of all runs. -/
theorem lintPaths_fix_paired :
    ((Run.lintPaths ⟨.top⟩ Paired.settings [Paired.file] none).run Paired.workspace).2 =
        .ok ⟨[⟨"/f.md", [Paired.message]⟩]⟩ ∧
      ∃ files rules, Run.Prepares ⟨.top⟩ Paired.settings [Paired.file] none Paired.workspace files
          rules ∧
        List.Forall₂ (FixesFile Paired.workspace rules) files [⟨"/f.md", [Paired.message]⟩] :=
  ⟨Paired.lintPaths_eq, lintPaths_fix Paired.lintPaths_eq⟩

/-- **A fix that is displaced in its file**: what stands there are not the blanks alone. -/
theorem lintPaths_fix_displaced :
    ∃ run result content cs m,
      ((Run.lintPaths ⟨.top⟩ Paired.settings [Paired.file] none).run Paired.workspace).2 = .ok run ∧
        result ∈ run.results ∧ result.path = Paired.file.text ∧
        Paired.workspace.tree.read Paired.workspace.cwd Paired.file = .ok content ∧
        decode? content.toBytes = some cs ∧ m ∈ result.messages ∧ m.ruleId = "trailing_spaces" ∧
        m.fix = some ⟨.int 3, .int 5, .text ""⟩ ∧ ∃ c ∈ slice cs 3 5, isTrailing c = false :=
  ⟨_, ⟨"/f.md", [Paired.message]⟩, .bytes [0x61, 0x0D, 0x0A, 0x62, 0x20, 0x20, 0x0A],
    ['a', '\r', '\n', 'b', ' ', ' ', '\n'], Paired.message, Paired.lintPaths_eq,
    List.mem_singleton.mpr rfl, by decide, by cbv, by cbv, List.mem_singleton.mpr rfl, rfl, rfl,
    'b', by decide, rfl⟩

end TrailingSpaces

end ProseLinter
