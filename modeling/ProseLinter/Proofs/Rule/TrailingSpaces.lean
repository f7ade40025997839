import ProseLinter.Proofs.Fix.Methods
import ProseLinter.Proofs.Rule.OnLines
import ProseLinter.Rule.TrailingSpaces

/-!
# Proofs/Rule/TrailingSpaces — what the rule on trailing spaces reports

The rule looks at each line by itself: it reports a line exactly if the line is **flagged**, and
then the report is settled by the line (`onLine_eq`).  So a run lists one message for each flagged
line (`run_eq`), and none if the rule is switched off (`run_off`).  The flagged lines are those that
end in spaces or tabs, and `run_messages` tells all of a run in these terms.
-/

namespace ProseLinter

/-- The removal of a range that does not start after its end. -/
theorem Fix.call_remove {start stop : ℤ} (h : start ≤ stop) (text : Value) :
    Fix.Method.call ⟨.remove, false⟩ (.tuple [.int start, .int stop]) text =
      .ok ⟨.int start, .int stop, .text ""⟩ :=
  Action.on_of_range (range_ofEnds h) .remove text

namespace TrailingSpaces

variable {document : Document} {config ruleConfig : Value} {name : String} {severity : Severity}
  {text : List Char} {n : TextNode}

/-- Whether a configuration value asks to leave blank lines alone. -/
def skipsBlank (ruleConfig : Value) : Bool :=
  (((ruleOptions ruleConfig).lookup "skip_blank_lines").getD (.bool false)).truth

/-- **A line is flagged** if something is trimmed from it, unless nothing is left and blank lines
are to be left alone. -/
def flags (skipBlank : Bool) (raw : List Char) : Bool :=
  decide (trimmed raw ≠ raw) && !(skipBlank && (trimmed raw).isEmpty)

theorem prefix_trimmed (raw : List Char) : trimmed raw <+: raw :=
  List.rdropWhile_prefix isTrailing raw

/-- Trimming that changes a line makes it shorter. -/
theorem length_trimmed_eq_iff {raw : List Char} :
    (trimmed raw).length = raw.length ↔ trimmed raw = raw :=
  ⟨(prefix_trimmed raw).eq_of_length, congrArg _⟩

/-- A flagged line has something to trim. -/
theorem length_trimmed_lt {skipBlank : Bool} {raw : List Char} (h : flags skipBlank raw = true) :
    (trimmed raw).length < raw.length := by
  have hne : trimmed raw ≠ raw := of_decide_eq_true (Bool.and_eq_true_iff.mp h).1
  exact lt_of_le_of_ne (prefix_trimmed raw).length_le (mt length_trimmed_eq_iff.mp hne)

/-! ## One line -/

/-- Where the trailing characters of a node start. -/
def cut (n : TextNode) : ℤ := n.start + (trimmed n.raw).length

/-- Where the text of a node ends. -/
def rawStop (n : TextNode) : ℤ := n.start + n.raw.length

/-- The fix that removes the trailing characters of a node. -/
def fixFor (n : TextNode) : Fix := ⟨.int (cut n), .int (rawStop n), .text ""⟩

/-- What the rule finds at a node. -/
def findingAt (n : TextNode) : Finding Value :=
  ⟨.text "Trailing whitespace", .int (trimmed n.raw).length, .none, .none, .edit (fixFor n)⟩

/-- The report of a node in a context. -/
def reportAt (context : Context) (n : TextNode) : Report :=
  ⟨context.rule, .node n, context.severity, .finding (findingAt n)⟩

/-- **The rule reports a line if it is flagged**, and never fails. -/
theorem onLine_eq (context : Context) (skipBlank : Bool) (n : TextNode) :
    onLine context skipBlank n =
      .ok (if flags skipBlank n.raw then [reportAt context n] else []) := by
  unfold onLine
  simp only
  by_cases htrimmed : trimmed n.raw = n.raw
  · rw [if_pos (congrArg _ htrimmed), if_neg (by simp [flags, htrimmed])]
    rfl
  · rw [if_neg (mt length_trimmed_eq_iff.mp htrimmed)]
    have hempty : ((trimmed n.raw).length == 0) = (trimmed n.raw).isEmpty := by
      cases trimmed n.raw <;> rfl
    rw [hempty]
    cases hskip : skipBlank && (trimmed n.raw).isEmpty with
    | true =>
      rw [if_pos rfl, if_neg (by simp [flags, hskip])]
      rfl
    | false =>
      have hle : cut n ≤ rawStop n := by
        have := (prefix_trimmed n.raw).length_le
        rw [cut, rawStop]
        omega
      rw [if_neg (by simp), if_pos (by simp [flags, htrimmed, hskip])]
      exact bind_eq_ok_iff.mpr
        ⟨fixFor n, Fix.call_remove hle .none, bind_eq_ok_iff.mpr ⟨_, rfl, rfl⟩⟩

/-! ## One document -/

/-- The nodes of a text that are flagged. -/
def flagged (skipBlank : Bool) (text : List Char) : List TextNode :=
  (Document.nodes text).tail.filter fun n => flags skipBlank n.raw

/-- **The message on a node** of a line. -/
def messageOn (name : String) (severity : Severity) (n : TextNode) : LintMessage :=
  ⟨name, .text "Trailing whitespace", cut n, n.line, (trimmed n.raw).length + 1, severity,
    some (fixFor n)⟩

theorem messageFor_reportAt {context : Context} (hn : n ∈ (Document.nodes text).tail)
    (htext : context.document.text = text) :
    Lint.messageFor (.ofText text) (reportAt context n) =
      .ok (messageOn context.rule context.severity n) := by
  obtain ⟨k, ret, h⟩ := Document.exists_showsRow_of_mem hn
  have hposition : Document.position text (cut n) = ⟨n.line, (trimmed n.raw).length + 1⟩ :=
    h.position_add (prefix_trimmed n.raw).length_le
  subst htext
  have hfix : Lint.fixOf (.finding (findingAt n)) = .ok (some (fixFor n)) := rfl
  have hoffset : Lint.offsetOf (.ofText context.document.text) n.start (.finding (findingAt n)) =
      .ok (cut n) := Lint.offsetOf_of_index rfl _ _
  have hplaced := Lint.placed_finding hfix hoffset
  rw [hposition] at hplaced
  exact hplaced

/-- The rule by itself, under a configuration. -/
def configured (name : String) (ruleConfig : Value) : ConfiguredRule := ⟨name, rule, ruleConfig⟩

/-- **The rule looks at lines**, and reports those that are flagged. -/
theorem looksAtLines (hseverity : Severity.ofConfig ruleConfig = .ok severity) :
    LooksAtLines document config (configured name ruleConfig) fun n =>
      if flags (skipsBlank ruleConfig) n.raw then
        [reportAt ⟨name, document, config, severity⟩ n] else [] :=
  .of_handler hseverity rfl fun n => onLine_eq _ _ n

/-- **The rule by itself returns one message for each flagged node**, in the order of the lines. -/
theorem run_eq (hseverity : Severity.ofConfig ruleConfig = .ok severity) (hoff : severity ≠ .off) :
    Lint.run document config [configured name ruleConfig] =
      .ok ((flagged (skipsBlank ruleConfig) document.text).map (messageOn name severity)) := by
  rw [flagged, ← flatMap_if]
  refine (looksAtLines hseverity).run_eq (fun n hn => ?_) (fun n m hm => ?_) fun n => ?_
  · cases hflags : flags (skipsBlank ruleConfig) n.raw with
    | true =>
      have hkept : [reportAt ⟨name, document, config, severity⟩ n].filter (·.severity ≠ .off) =
          [reportAt ⟨name, document, config, severity⟩ n] :=
        List.filter_eq_self.mpr (by simpa [reportAt] using hoff)
      rw [if_pos rfl, if_pos rfl, hkept]
      exact .cons (messageFor_reportAt hn rfl) .nil
    | false => exact .nil
  · split at hm
    · rw [List.mem_singleton.mp hm]
      rfl
    · exact absurd hm List.not_mem_nil
  · split
    exacts [List.pairwise_singleton _ _, .nil]

/-- The rule returns nothing if it is switched off. -/
theorem run_off (hoff : Severity.ofConfig ruleConfig = .ok .off) :
    Lint.run document config [configured name ruleConfig] = .ok [] := by
  refine (looksAtLines hoff).run_off fun n report hreport => ?_
  split at hreport
  · rw [List.mem_singleton.mp hreport]
    rfl
  · exact absurd hreport List.not_mem_nil

/-- A message of the rule is that of a flagged line. -/
theorem exists_flagged_of_mem_run {own : List LintMessage} {m : LintMessage}
    (h : Lint.run document config [configured name ruleConfig] = .ok own) (hm : m ∈ own) :
    ∃ severity, ∃ n ∈ flagged (skipsBlank ruleConfig) document.text,
      m = messageOn name severity n := by
  obtain ⟨severity, handlers, hseverity, -⟩ := Lint.exists_severity_of_run h
  by_cases hoff : severity = .off
  · obtain rfl := Except.ok.inj (h.symm.trans (run_off (hoff ▸ hseverity)))
    exact absurd hm List.not_mem_nil
  · obtain rfl := Except.ok.inj (h.symm.trans (run_eq hseverity hoff))
    obtain ⟨n, hn, rfl⟩ := List.mem_map.mp hm
    exact ⟨severity, n, hn, rfl⟩

/-! ## The nodes that are reported -/

/-- **A node is at fault** if it is that of a line that ends in a space or a tab, unless the line
holds nothing else and blank lines are to be left alone. -/
def IsAtFault (skipBlank : Bool) (n : TextNode) : Prop :=
  n.kind = Document.lineKind ∧ (∃ c ∈ n.raw.getLast?, isTrailing c = true) ∧
    ¬(skipBlank = true ∧ ∀ c ∈ n.raw, isTrailing c = true)

instance (skipBlank : Bool) : DecidablePred (IsAtFault skipBlank) := fun _ =>
  inferInstanceAs (Decidable (_ ∧ _ ∧ ¬_))

/-- Trimming changes a line that ends in a trailing character. -/
theorem trimmed_ne_iff {raw : List Char} :
    trimmed raw ≠ raw ↔ ∃ c ∈ raw.getLast?, isTrailing c = true := by
  change ¬raw.rdropWhile isTrailing = raw ↔ _
  rw [List.rdropWhile_eq_self_iff]
  rcases List.eq_nil_or_concat raw with rfl | ⟨l, c, rfl⟩ <;> simp

theorem flags_iff {skipBlank : Bool} {raw : List Char} :
    flags skipBlank raw = true ↔ (∃ c ∈ raw.getLast?, isTrailing c = true) ∧
      ¬(skipBlank = true ∧ ∀ c ∈ raw, isTrailing c = true) := by
  have hblank : trimmed raw = [] ↔ ∀ c ∈ raw, isTrailing c = true := List.rdropWhile_eq_nil_iff
  rw [← trimmed_ne_iff, ← hblank, flags]
  cases skipBlank <;> simp

/-- **The flagged nodes are those at fault** among all nodes. -/
theorem flagged_eq_filter (skipBlank : Bool) (text : List Char) :
    flagged skipBlank text = (Document.nodes text).filter fun n => IsAtFault skipBlank n := by
  rw [flagged, Document.tail_nodes_eq_filter, List.filter_filter]
  refine List.filter_congr fun n _ => ?_
  rw [Bool.eq_iff_iff, Bool.and_eq_true_iff, flags_iff, decide_eq_true_iff, decide_eq_true_iff,
    and_comm, IsAtFault]

/-- What trails in the flagged nodes is not empty, and stands in the order of the lines. -/
theorem pairwise_flagged (skipBlank : Bool) (text : List Char) :
    (∀ n ∈ flagged skipBlank text, cut n < rawStop n) ∧
      (flagged skipBlank text).Pairwise fun n n' => n.line < n'.line ∧ rawStop n < cut n' := by
  have hlt : ∀ n ∈ flagged skipBlank text, cut n < rawStop n := fun n hn => by
    have := length_trimmed_lt (List.mem_filter.mp hn).2
    rw [cut, rawStop]
    omega
  refine ⟨hlt, List.Pairwise.filter _ ?_⟩
  have hrows := (Document.pairwise_line_lineNodes text).and (Document.pairwise_lineNodes text)
  refine hrows.imp_of_mem fun {n n'} hn _ ⟨hline, hstart⟩ => ⟨hline, ?_⟩
  obtain ⟨k, ret, hrow⟩ := Document.exists_showsRow_of_mem hn
  rw [hrow.stop_eq] at hstart
  rw [rawStop, cut]
  omega

/-- **What the rule returns.**  Whatever severity it is configured with, and whether or not blank
lines are left alone, the rule by itself returns nothing if it is switched off, and otherwise one
message for each node at fault, in the order of the lines.  With `j` the length of the line without
the spaces and tabs at its end, the message stands in column `j + 1` of the line, and its fix
removes what is in the line from `j` on.  The ranges of the fixes are not empty, and each of them
ends before the next one starts. -/
theorem run_messages (document : Document) (config : Value) (name : String)
    (hseverity : Severity.ofConfig ruleConfig = .ok severity) :
    let found := (Document.nodes document.text).filter fun n => IsAtFault (skipsBlank ruleConfig) n
    let j := fun n : TextNode => (n.raw.rdropWhile isTrailing).length
    Lint.run document config [configured name ruleConfig] =
        .ok (if severity = .off then [] else found.map fun n =>
          ⟨name, .text "Trailing whitespace", n.start + j n, n.line, j n + 1, severity,
            some ⟨.int (n.start + j n), .int (n.start + n.raw.length), .text ""⟩⟩) ∧
      (∀ n ∈ found, n.start + j n < n.start + n.raw.length) ∧
      found.Pairwise fun n n' =>
        n.line < n'.line ∧ n.start + (n.raw.length : ℤ) < n'.start + j n' := by
  intro found j
  have hfound : found = flagged (skipsBlank ruleConfig) document.text :=
    (flagged_eq_filter _ _).symm
  rw [hfound]
  refine ⟨?_, pairwise_flagged _ _⟩
  by_cases hoff : severity = .off
  · rw [if_pos hoff, run_off (hoff ▸ hseverity)]
  · rw [if_neg hoff, run_eq hseverity hoff]
    rfl

/-- Blank lines are left alone, a carriage return and a tab among the blanks. -/
theorem run_messages_skipping :
    let document : Document := ⟨['a', ' ', '\t', '\r', '\n', ' ', '\n', '\r', ' '], none⟩
    let ruleConfig := Value.table [("severity", .text "warning"),
      ("skip_blank_lines", .bool true)]
    Severity.ofConfig ruleConfig = .ok .warning ∧
      Lint.run document .none [configured "spaces" ruleConfig] = .ok
        [⟨"spaces", .text "Trailing whitespace", 1, 1, 2, .warning,
            some ⟨.int 1, .int 3, .text ""⟩⟩,
          ⟨"spaces", .text "Trailing whitespace", 8, 3, 2, .warning,
            some ⟨.int 8, .int 9, .text ""⟩⟩] := by
  intro document ruleConfig
  have hseverity : Severity.ofConfig ruleConfig = .ok .warning := rfl
  have hfound : ((Document.nodes document.text).filter fun n =>
      IsAtFault (skipsBlank ruleConfig) n) =
        [⟨Document.lineKind, 0, 3, ['a', ' ', '\t'], 1⟩,
          ⟨Document.lineKind, 7, 9, ['\r', ' '], 3⟩] := by
    rw [← flagged_eq_filter]
    decide
  have hrun := (run_messages document .none "spaces" hseverity).1
  rw [hfound] at hrun
  exact ⟨hseverity, hrun⟩

/-- A rule that is switched off returns no message for a node at fault. -/
theorem run_messages_off :
    let document : Document := ⟨['a', ' '], none⟩
    Severity.ofConfig (.text "off") = .ok .off ∧
      (∃ n ∈ Document.nodes document.text, IsAtFault (skipsBlank (.text "off")) n) ∧
      Lint.run document .none [configured "spaces" (.text "off")] = .ok [] := by
  intro document
  have hfault : IsAtFault (skipsBlank (.text "off")) ⟨Document.lineKind, 0, 2, ['a', ' '], 1⟩ :=
    ⟨rfl, ⟨' ', rfl, rfl⟩, fun h => Bool.false_ne_true h.1⟩
  exact ⟨rfl, ⟨_, by decide, hfault⟩, run_off rfl⟩

end TrailingSpaces

end ProseLinter
