import ProseLinter.Proofs.Rule.Bundled
import ProseLinter.Proofs.Rule.TrailingSpaces.InFiles
import ProseLinter.Proofs.Run.Reports

/-!
# Proofs/Run/Lines — reports that show their messages line by line

The unix and the compact layout have a line for each message.  What the bundled rules say has no
line feed in it, so if paths and names of rules have none either, the lines of such a report are its
messages, one each and in their order, and then an empty line and a count: no text of a document and
no word of a configuration makes up a line (`Run.lintPaths_lines`).
-/

namespace ProseLinter

open LintResult

/-- An integer can be written if a larger one can. -/
theorem Integer.isWritable_of_le {i n : ℤ} (hi : 0 ≤ i) (hle : i ≤ n) (hn : isWritable n = true) :
    isWritable i = true := by
  have habs : i.natAbs ≤ n.natAbs := by omega
  rw [isWritable, decide_eq_true_iff] at hn ⊢
  exact habs.trans_lt hn

namespace Layout

variable {results : List LintResult} {line : LintResult → LintMessage → List Char}
  {colors : Bool} {footer : Span}

/-- **A layout of lines splits into them**: those of the messages, an empty one and the last. -/
theorem splitOn_render (hline : ∀ r ∈ results, ∀ m ∈ r.messages, '\n' ∉ line r m)
    (hfooter : '\n' ∉ footer.render .terminal colors) :
    Text.splitOn '\n' (render .terminal colors
        (results.flatMap (fun r => r.messages.map fun m => [Span.plain (line r m)]) ++
          [[], [footer]])) =
      results.flatMap (fun r => r.messages.map (line r)) ++
        [[], footer.render .terminal colors] := by
  have hlines : ((results.flatMap fun r => r.messages.map fun m => [Span.plain (line r m)]) ++
      [[], [footer]]).map (fun spans => spans.flatMap (Span.render .terminal colors)) =
        results.flatMap (fun r => r.messages.map (line r)) ++
          [[], footer.render .terminal colors] := by
    rw [List.map_append, List.map_flatMap]
    simp only [List.map_map, List.map_cons, List.map_nil, List.flatMap_nil, List.flatMap_singleton]
    congr 1
    simp only [Function.comp_def, List.flatMap_singleton]
    rfl
  rw [render, hlines]
  refine Text.splitOn_join (by simp) fun l hl => ?_
  rcases List.mem_append.mp hl with hl | hl
  · obtain ⟨r, hr, hl⟩ := List.mem_flatMap.mp hl
    obtain ⟨m, hm, rfl⟩ := List.mem_map.mp hl
    exact hline r hr m hm
  · simp only [List.mem_cons, List.not_mem_nil, or_false] at hl
    rcases hl with rfl | rfl
    exacts [List.not_mem_nil, hfooter]

/-! ## The lines of messages -/

/-- **A message keeps to one line**: its text can be made, and neither the text nor the name of the
rule has a line feed in it. -/
structure KeepsToLine (m : LintMessage) : Prop where
  plain : ∃ cs, m.message.plain = .ok cs
  body : '\n' ∉ m.body
  ruleId : '\n' ∉ m.ruleId.toList

theorem newline_not_mem_integerText (n : ℤ) : '\n' ∉ Integer.text n :=
  not_mem_integerText rfl (by decide) n

theorem newline_not_mem_title (s : Severity) : '\n' ∉ s.title.toList := by
  cases s <;> decide

/-- The line of a message has no line feed in it in the unix layout… -/
theorem KeepsToLine.unix {path : String} {m : LintMessage} (h : KeepsToLine m)
    (hpath : '\n' ∉ path.toList) : '\n' ∉ Unix.messageLine path m := by
  delta Unix.messageLine
  simp only [List.mem_append, List.mem_cons, hpath, newline_not_mem_integerText, h.body,
    newline_not_mem_title, h.ruleId, or_false, false_or]
  decide

/-- …and in the compact one. -/
theorem KeepsToLine.compact {path : String} {m : LintMessage} (h : KeepsToLine m)
    (hpath : '\n' ∉ path.toList) : '\n' ∉ Compact.messageLine path m := by
  delta Compact.messageLine
  simp only [List.mem_append, List.mem_cons, hpath, newline_not_mem_integerText, h.body,
    newline_not_mem_title, h.ruleId, or_false, false_or]
  decide

end Layout

/-- **A report shows messages line by line**: where it is given, it splits at line feeds into a line
for each message, in the order of the files and of their messages, then an empty line, and then the
count of problems, two lines more than there are messages; and the line of a message starts with the
path of its file. -/
structure Reporter.ShowsLines (reporter : Reporter) (colors : Bool) (results : List LintResult)
    (line : String → LintMessage → List Char) : Prop where
  splitOn_eq : ∀ text, reporter.format colors (.lint results) = .ok text →
    Text.splitOn '\n' text = results.flatMap (fun r => r.messages.map (line r.path)) ++
      [[], counted "problem" (allMessages results).length]
  length_eq : ∀ text, reporter.format colors (.lint results) = .ok text →
    (Text.splitOn '\n' text).length = (allMessages results).length + 2
  path_front : ∀ r ∈ results, ∀ m ∈ r.messages, r.path.toList <+: line r.path m

namespace Reporter

open Layout

variable {reporter : Reporter} {colors : Bool} {results : List LintResult}
  {line : String → LintMessage → List Char}

/-- A layout with a line for each message shows them line by line if there are any, and if they keep
to their lines. -/
theorem showsLines_of_footer {n : ℕ} {footer : Span}
    (hformat : reporter.format colors (.lint results) =
      checked (allMessages results) (render .terminal colors
        (results.flatMap (fun r => r.messages.map fun m => [Span.plain (line r.path m)]) ++
          if n = 0 then [] else [[], [footer]])))
    (hn : n = (allMessages results).length) (hsome : (allMessages results).length ≠ 0)
    (hfooter : footer.render .terminal colors = counted "problem" n)
    (hline : ∀ r ∈ results, ∀ m ∈ r.messages, '\n' ∉ line r.path m)
    (hpath : ∀ path m, path.toList <+: line path m) :
    reporter.ShowsLines colors results line := by
  subst hn
  have hsplit : ∀ text, reporter.format colors (.lint results) = .ok text →
      Text.splitOn '\n' text = results.flatMap (fun r => r.messages.map (line r.path)) ++
        [[], counted "problem" (allMessages results).length] := fun text htext => by
    obtain ⟨-, rfl⟩ := checked_eq_ok_iff.mp (hformat.symm.trans htext)
    rw [if_neg hsome, splitOn_render hline (hfooter ▸ (isLine_counted _).newline), hfooter]
  refine ⟨hsplit, fun text htext => ?_, fun r _ m _ => hpath r.path m⟩
  rw [hsplit text htext, List.length_append, List.length_flatMap, allMessages, List.length_flatMap]
  simp only [List.length_map]
  rfl

/-- The unix layout shows messages line by line… -/
theorem showsLines_unix (hpaths : ∀ r ∈ results, '\n' ∉ r.path.toList)
    (hline : ∀ r ∈ results, ∀ m ∈ r.messages, KeepsToLine m)
    (hsome : (allMessages results).length ≠ 0) :
    unix.ShowsLines colors results Unix.messageLine :=
  showsLines_of_footer rfl rfl hsome rfl (fun r hr m hm => (hline r hr m hm).unix (hpaths r hr))
    fun path m => by
      delta Unix.messageLine
      simp only [List.append_assoc, List.prefix_append]

/-- …and so does the compact layout without colours. -/
theorem showsLines_compact (hpaths : ∀ r ∈ results, '\n' ∉ r.path.toList)
    (hline : ∀ r ∈ results, ∀ m ∈ r.messages, KeepsToLine m)
    (hoff : ∀ m ∈ allMessages results, m.severity ≠ .off)
    (hsome : (allMessages results).length ≠ 0) :
    compact.ShowsLines false results Compact.messageLine :=
  showsLines_of_footer rfl (Summary.total_eq_length hoff) hsome rfl
    (fun r hr m hm => (hline r hr m hm).compact (hpaths r hr)) fun path m => by
      delta Compact.messageLine
      simp only [List.append_assoc, List.prefix_append]

end Reporter

namespace Run

open Layout

variable {home : Family.Home} {config : Config} {paths : List Path} {cwd : Option Path}
  {w : Workspace} {files : List Path} {rules : List ConfiguredRule} {run : LintRun}

/-- A run has the files that its scan finds, and the rules that it loads. -/
theorem Prepares.unique {files' : List Path} {rules' : List ConfiguredRule}
    (h : Prepares home config paths cwd w files rules)
    (h' : Prepares home config paths cwd w files' rules') : files' = files ∧ rules' = rules := by
  obtain rfl := Except.ok.inj (h.scan.symm.trans h'.scan)
  obtain rfl := Except.ok.inj (h.load.symm.trans h'.load)
  exact ⟨rfl, rfl⟩

/-- **The messages of bundled rules keep to their lines**, if the names of the rules do. -/
theorem keepsToLine_of_mem_run {document : Document} {messages : List LintMessage}
    (hrules : ∀ r ∈ rules, (∃ b : BundledRule, r.rule = b.rule) ∧ '\n' ∉ r.name.toList)
    (h : Lint.run document .none rules = .ok messages) {m : LintMessage} (hm : m ∈ messages) :
    KeepsToLine m := by
  have hthrough : ∀ r ∈ rules, r.rule.ReportsThroughContext := fun r hr => by
    obtain ⟨⟨b, hb⟩, -⟩ := hrules r hr
    exact hb ▸ b.reportsThroughContext
  obtain ⟨⟨name, rule, ruleConfig⟩, hr, hname, own, hown, hmem⟩ :=
    Lint.exists_own_of_mem_run hthrough h hm
  obtain ⟨⟨b, hb⟩, hnewline⟩ := hrules _ hr
  obtain rfl : rule = b.rule := hb
  obtain ⟨cs, hcs, hfeed⟩ := BundledRule.newline_not_mem_of_mem_run hown hmem
  have hplain : m.message.plain = .ok cs := by
    rw [hcs, Value.ofChars, Value.plain_text, String.toList_ofList]
  refine ⟨⟨cs, hplain⟩, ?_, hname ▸ hnewline⟩
  rwa [LintMessage.body, Value.inMessage, hplain]

/-- A message can be written if its text can be made and the length of the text that it is about can
be written. -/
theorem isWritable_of_mem_run {document : Document} {messages : List LintMessage}
    (h : Lint.run document .none rules = .ok messages) {m : LintMessage} (hm : m ∈ messages)
    (hline : KeepsToLine m) (hlength : Integer.isWritable (document.text.length + 1) = true) :
    m.IsWritable := by
  have hplace := Lint.inText_of_mem_run h hm
  obtain ⟨hle, hcolumn⟩ := hplace.le_length
  exact ⟨Integer.isWritable_of_le (zero_le_one.trans hplace.one_le_line) hle hlength,
    Integer.isWritable_of_le (zero_le_one.trans hplace.one_le_column) hcolumn hlength, hline.plain⟩

/-- **Documents do not make up lines of reports.**  Let a run return messages, with bundled rules
only, and let no path of a file and no name of a rule have a line feed in it.  The results are those
for the files, in their order.  The unix layout, in any colours, and the compact layout without
colours show the messages line by line, whatever the documents and the options of the rules are; and
there are such reports unless a document is so long that its length cannot be written. -/
theorem lintPaths_lines (hprepares : Prepares home config paths cwd w files rules)
    (hrun : ((lintPaths home config paths cwd).run w).2 = .ok run)
    (hrules : ∀ r ∈ rules, (∃ b : BundledRule, r.rule = b.rule) ∧ '\n' ∉ r.name.toList)
    (hfiles : ∀ p ∈ files, '\n' ∉ p.text.toList)
    (hsome : 0 < (allMessages run.results).length) :
    run.results.map (·.path) = files.map (·.text) ∧
      (∀ colors, Reporter.unix.ShowsLines colors run.results Unix.messageLine) ∧
      Reporter.compact.ShowsLines false run.results Compact.messageLine ∧
      ((∀ p ∈ files, ∀ document, documentAt w p = .ok document →
          Integer.isWritable (document.text.length + 1) = true) →
        ∀ colors, (∃ text, Reporter.unix.format colors (.lint run.results) = .ok text) ∧
          ∃ text, Reporter.compact.format colors (.lint run.results) = .ok text) := by
  obtain ⟨files', rules', hprepares', hresults⟩ := lintPaths_gives_iff.mp hrun
  obtain ⟨rfl, rfl⟩ := hprepares.unique hprepares'
  have hpaths : run.results.map (·.path) = files'.map (·.text) :=
    (map_eq_of_forall₂ hresults fun p _ result hresult => hresult.1.symm).symm
  have hnewline : ∀ r ∈ run.results, '\n' ∉ r.path.toList := fun r hr => by
    obtain ⟨p, hp, hresult⟩ := forall₂_right hresults r hr
    exact hresult.1 ▸ hfiles p hp
  have hline : ∀ r ∈ run.results, ∀ m ∈ r.messages, KeepsToLine m := fun r hr m hm => by
    obtain ⟨p, -, -, document, -, hlint⟩ := forall₂_right hresults r hr
    exact keepsToLine_of_mem_run hrules hlint hm
  have hoff := severity_ne_off hrun
  refine ⟨hpaths, fun colors => Reporter.showsLines_unix hnewline hline hsome.ne',
    Reporter.showsLines_compact hnewline hline hoff hsome.ne', fun hlength colors => ?_⟩
  have hwritable : ∀ m ∈ allMessages run.results, m.IsWritable := fun m hm => by
    obtain ⟨r, hr, hm⟩ := List.mem_flatMap.mp hm
    obtain ⟨p, hp, -, document, hdocument, hlint⟩ := forall₂_right hresults r hr
    exact isWritable_of_mem_run hlint hm (hline r hr m hm) (hlength p hp document hdocument)
  exact ⟨(Reporter.counts_unix.isOk_iff colors).mpr hwritable,
    ((Reporter.counts_compact hoff).isOk_iff colors).mpr hwritable⟩

/-- The run on a file of two lines, one of which ends in blanks. -/
theorem lintPaths_lines_paired :
    Prepares ⟨.top⟩ TrailingSpaces.Paired.settings [TrailingSpaces.Paired.file] none
        TrailingSpaces.Paired.workspace [TrailingSpaces.Paired.file]
        [TrailingSpaces.configured "trailing_spaces" (.bool true)] ∧
      ∃ text, Reporter.unix.format true (.lint [⟨"/f.md", [TrailingSpaces.Paired.message]⟩]) =
          .ok text ∧
        Text.splitOn '\n' text = ["/f.md:2:2: Trailing whitespace [Error/trailing_spaces]".toList,
          [], "1 problem".toList] := by
  have hprepares := TrailingSpaces.Paired.prepares
  have hdocument : ∀ p ∈ [TrailingSpaces.Paired.file], ∀ document,
      documentAt TrailingSpaces.Paired.workspace p = .ok document →
        Integer.isWritable (document.text.length + 1) = true := by
    intro p hp document h
    obtain rfl := List.mem_singleton.mp hp
    obtain rfl := Except.ok.inj (TrailingSpaces.Paired.documentAt_eq.symm.trans h)
    exact Integer.isWritable_iff.mpr (by decide)
  obtain ⟨-, hunix, -, hgiven⟩ := lintPaths_lines hprepares TrailingSpaces.Paired.lintPaths_eq
    (List.forall_mem_singleton.mpr ⟨⟨.trailingSpaces, rfl⟩, by decide⟩)
    (List.forall_mem_singleton.mpr (by decide)) (by decide)
  obtain ⟨⟨text, htext⟩, -⟩ := hgiven hdocument true
  exact ⟨hprepares, text, htext, ((hunix true).splitOn_eq text htext).trans (by decide)⟩

end Run

end ProseLinter
