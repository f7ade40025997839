import ProseLinter.Proofs.Document.Decomposition
import ProseLinter.Proofs.Lint.Placement
import ProseLinter.Proofs.Lint.Run

/-!
# Proofs/Rule/OnLines — rules that look at lines

A rule that **looks at lines** reports nothing when it is set up and nothing at the node of the
whole text; at the node of a line it makes some reports, and never fails.  Each of its messages
stands on the line that it is about, and lines come in the order of their numbers.  So if the
messages on one line come in their order, a run of the rule by itself has nothing to sort:
`LooksAtLines.run_eq` lists them line after line.
-/

namespace ProseLinter

/-- What a rule that handles lines does with a node of any kind. -/
theorem Handlers.onNode_lines (handler : Handler) (n : TextNode) :
    Handlers.onNode ⟨[], [(Document.lineKind, handler)]⟩ n =
      if n.kind = Document.lineKind then handler n else .ok [] := by
  by_cases hkind : n.kind = Document.lineKind
  · rw [if_pos hkind, Handlers.onNode, hkind]
    rfl
  · have hbeq : (n.kind == Document.lineKind) = false := by simpa using hkind
    rw [if_neg hkind]
    simp only [Handlers.onNode, List.lookup_cons, hbeq, List.lookup_nil]

/-- The nodes of lines show rows. -/
theorem Document.exists_showsRow_of_mem {text : List Char} {n : TextNode}
    (hn : n ∈ (nodes text).tail) : ∃ k ret, ShowsRow text k n ret := by
  obtain ⟨k, hk⟩ := List.mem_iff_getElem?.mp hn
  obtain ⟨ret, h⟩ := exists_showsRow hk
  exact ⟨k, ret, h⟩

/-- Lines are told apart by their numbers. -/
theorem Document.eq_of_line_eq {text : List Char} {n n' : TextNode} (hn : n ∈ (nodes text).tail)
    (hn' : n' ∈ (nodes text).tail) (hline : n.line = n'.line) : n = n' := by
  obtain ⟨k, hk⟩ := List.mem_iff_getElem?.mp hn
  obtain ⟨k', hk'⟩ := List.mem_iff_getElem?.mp hn'
  obtain ⟨ret, h⟩ := exists_showsRow hk
  obtain ⟨ret', h'⟩ := exists_showsRow hk'
  obtain rfl : k = k' := by
    rw [h.line_eq, h'.line_eq] at hline
    omega
  exact Option.some.inj (hk.symm.trans hk')

/-- The nodes of lines are those of their kind. -/
theorem Document.tail_nodes_eq_filter (text : List Char) :
    (nodes text).tail = (nodes text).filter (·.kind = lineKind) := by
  have hwhole : ¬wholeKind = lineKind := by decide
  rw [nodes, List.tail_cons, List.filter_cons_of_neg (by simpa using hwhole),
    List.filter_eq_self.mpr fun n hn => ?_]
  obtain ⟨k, ret, hrow⟩ := exists_showsRow_of_mem hn
  exact decide_eq_true hrow.kind_eq

/-- **A rule that looks at lines** makes its reports at the nodes of lines, and none elsewhere. -/
def LooksAtLines (document : Document) (config : Value) (r : ConfiguredRule)
    (made : TextNode → List Report) : Prop :=
  ∃ h, r.handlers document config = .ok h ∧ h.reports = [] ∧
    ∀ n, h.onNode n = .ok (if n.kind = Document.lineKind then made n else [])

namespace LooksAtLines

variable {document : Document} {config : Value} {r : ConfiguredRule} {made : TextNode → List Report}
  {severity : Severity}

/-- A rule looks at lines if that is what it gives a handler for… -/
theorem of_handler {handler : Handler} (hseverity : Severity.ofConfig r.config = .ok severity)
    (hrule : r.rule ⟨r.name, document, config, severity⟩ (ruleOptions r.config) =
      .ok ⟨[], [(Document.lineKind, handler)]⟩)
    (hmade : ∀ n, handler n = .ok (made n)) : LooksAtLines document config r made := by
  refine ⟨_, (r.handlers_eq hseverity document config).trans hrule, rfl, fun n => ?_⟩
  rw [Handlers.onNode_lines, hmade]
  split <;> rfl

/-- …or if it does nothing at all. -/
theorem of_idle (hseverity : Severity.ofConfig r.config = .ok severity)
    (hrule : r.rule ⟨r.name, document, config, severity⟩ (ruleOptions r.config) = .ok .idle)
    (hmade : ∀ n, made n = []) : LooksAtLines document config r made := by
  refine ⟨_, (r.handlers_eq hseverity document config).trans hrule, rfl, fun n => ?_⟩
  rw [hmade, ite_self]
  rfl

theorem completes (h : LooksAtLines document config r made) : r.Completes document config := by
  obtain ⟨handlers, hhandlers, -, hnode⟩ := h
  exact ⟨handlers, hhandlers, fun n _ => ⟨_, hnode n⟩⟩

/-- Its reports are those at the lines, line after line. -/
theorem reportsInOrder_eq (h : LooksAtLines document config r made) :
    Lint.reportsInOrder document config [r] = (Document.nodes document.text).tail.flatMap made := by
  obtain ⟨handlers, hhandlers, hsetup, hnode⟩ := h
  have hfirst : r.reportsAtSetup document config = [] := by
    rw [ConfiguredRule.reportsAtSetup, hhandlers]
    exact hsetup
  have hat : ∀ n, r.reportsAt document config n =
      if n.kind = Document.lineKind then made n else [] := fun n => by
    rw [ConfiguredRule.reportsAt, hhandlers]
    change ((handlers.onNode n).toOption.getD []) = _
    rw [hnode]
    rfl
  have hlines : ∀ n ∈ (Document.nodes document.text).tail,
      r.reportsAt document config n = made n := fun n hn => by
    obtain ⟨k, ret, hrow⟩ := Document.exists_showsRow_of_mem hn
    rw [hat, if_pos hrow.kind_eq]
  have hwhole : ¬ Document.wholeKind = Document.lineKind := by decide
  have hnodes : Document.nodes document.text =
      ⟨Document.wholeKind, 0, document.text.length, document.text, 1⟩ ::
        (Document.nodes document.text).tail := rfl
  rw [Lint.reportsInOrder]
  simp only [List.flatMap_cons, List.flatMap_nil, List.append_nil, hfirst, List.nil_append]
  rw [hnodes, List.flatMap_cons, hat, if_neg hwhole, List.nil_append, List.tail_cons,
    List.flatMap_congr hlines]

/-- **A run of a rule that looks at lines** lists the messages on each line, line after line. -/
theorem run_eq (h : LooksAtLines document config r made) {messages : TextNode → List LintMessage}
    (hplaced : ∀ n ∈ (Document.nodes document.text).tail,
      List.Forall₂ (fun report m => Lint.messageFor (.ofText document.text) report = .ok m)
        ((made n).filter (·.severity ≠ .off)) (messages n))
    (hline : ∀ n, ∀ m ∈ messages n, m.line = n.line)
    (hsorted : ∀ n, (messages n).Pairwise fun a b => a.key ≤ b.key) :
    Lint.run document config [r] = .ok ((Document.nodes document.text).tail.flatMap messages) := by
  have hplaces : Lint.Places document config [r]
      ((Document.nodes document.text).tail.flatMap messages) := by
    rw [Lint.Places, h.reportsInOrder_eq, List.filter_flatMap]
    exact forall₂_flatMap hplaced
  have hpairwise : ((Document.nodes document.text).tail.flatMap messages).Pairwise
      fun a b => a.key ≤ b.key := by
    refine List.pairwise_flatMap.mpr ⟨fun n _ => hsorted n,
      (Document.pairwise_line_lineNodes document.text).imp fun {a b} hab m hm m' hm' => ?_⟩
    have hlt : m.line < m'.line := by rw [hline a m hm, hline b m' hm']; exact hab
    exact (Prod.Lex.toLex_lt_toLex.mpr (Or.inl (Prod.Lex.toLex_lt_toLex.mpr (Or.inl hlt)))).le
  exact Lint.run_eq_ok_iff_stablySorted.mpr
    ⟨List.forall_mem_singleton.mpr h.completes, _, hplaces, hpairwise, fun _ => rfl⟩

/-- A rule that is switched off returns nothing. -/
theorem run_off (h : LooksAtLines document config r made)
    (hoff : ∀ n, ∀ report ∈ made n, report.severity = .off) :
    Lint.run document config [r] = .ok [] := by
  have hnone : ∀ n, (made n).filter (·.severity ≠ .off) = [] := fun n =>
    List.filter_eq_nil_iff.mpr fun report hreport => by simp [hoff n report hreport]
  have hrun : Lint.run document config [r] =
      .ok ((Document.nodes document.text).tail.flatMap fun _ => []) :=
    h.run_eq (fun n _ => by rw [hnone n]; exact .nil) (fun _ _ hm => absurd hm List.not_mem_nil)
      fun _ => .nil
  rwa [List.flatMap_eq_nil_iff.mpr fun _ _ => rfl] at hrun

end LooksAtLines

end ProseLinter
