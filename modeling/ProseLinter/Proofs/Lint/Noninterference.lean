import ProseLinter.Proofs.Lint.Run
import ProseLinter.Proofs.Rule.ThroughContext

/-!
# Proofs/Lint/Noninterference — rules do not interfere

A run makes one list of reports and sorts it once, so what a rule reports stands among the reports
of all others.  It can be told apart by its name: of a run's reports, those of one name are the
reports of the rules of that name (`filter_reportsInOrder`), and so it is for the messages placed
(`Places.filter`).

Since the sort is stable and compares names too, the messages of a run are pinned down by the
messages of each name.  With distinct names these come from one rule each, whatever the other rules
are and in whichever order they run: `run_noninterference`.
-/

namespace ProseLinter

variable {document : Document} {config : Value}

/-! ## Reports bear the name of their rule -/

namespace ConfiguredRule

variable {r : ConfiguredRule} {report : Report}

/-- **A rule reports something** through the context that it is set up with. -/
def Reports (document : Document) (config : Value) (r : ConfiguredRule) (report : Report) : Prop :=
  ∃ context node payload, Context.ofConfig r.name document config r.config = .ok context ∧
    context.report node payload = .ok report

/-- What a rule reports bears its name. -/
theorem Reports.rule_eq (h : r.Reports document config report) : report.rule = r.name := by
  obtain ⟨context, node, payload, hcontext, hreport⟩ := h
  rw [(Context.report_eq hreport).1]
  unfold Context.ofConfig at hcontext
  split at hcontext
  · cases hcontext
    rfl
  · cases hcontext

/-- What is told of the handlers of a rule is told of those that it is set up with. -/
theorem exists_handlers_of_mem {told : Handlers → List Report}
    (h : report ∈ (r.handlers document config).toOption.elim [] told) :
    ∃ context options handlers,
      Context.ofConfig r.name document config r.config = .ok context ∧
        r.rule context options = .ok handlers ∧ report ∈ told handlers := by
  cases hhandlers : r.handlers document config with
  | error e => simp [hhandlers, Except.toOption] at h
  | ok handlers =>
    rw [hhandlers] at h
    obtain ⟨context, hcontext, hrule⟩ := bind_eq_ok_iff.mp hhandlers
    exact ⟨context, _, handlers, hcontext, hrule, h⟩

theorem reports_of_mem_reportsAtSetup (hr : r.rule.ReportsThroughContext)
    (h : report ∈ r.reportsAtSetup document config) : r.Reports document config report := by
  obtain ⟨context, _, handlers, hcontext, hrule, hmem⟩ := exists_handlers_of_mem h
  obtain ⟨node, payload, hreport⟩ := hr.setup hrule report hmem
  exact ⟨context, node, payload, hcontext, hreport⟩

theorem reports_of_mem_reportsAt (hr : r.rule.ReportsThroughContext) {n : TextNode}
    (h : report ∈ r.reportsAt document config n) : r.Reports document config report := by
  obtain ⟨context, _, handlers, hcontext, hrule, hmem⟩ := exists_handlers_of_mem h
  cases hmade : handlers.onNode n with
  | error e => simp [Handlers.seen, hmade, Except.toOption] at hmem
  | ok made =>
    rw [Handlers.seen, hmade] at hmem
    obtain ⟨node, payload, hreport⟩ := hr.onNode hrule hmade report hmem
    exact ⟨context, node, payload, hcontext, hreport⟩

end ConfiguredRule

namespace Lint

variable {rules rules' : List ConfiguredRule} {placed placed' messages : List LintMessage}

/-- If what each rule makes bears its name, then what is made under a name is made by the rules of
that name. -/
theorem filter_flatMap_of_rule (made : ConfiguredRule → List Report) (name : String) :
    ∀ {rules : List ConfiguredRule}, (∀ r ∈ rules, ∀ report ∈ made r, report.rule = r.name) →
      (rules.flatMap made).filter (·.rule = name) = (rules.filter (·.name = name)).flatMap made
  | [], _ => rfl
  | r :: rules, h => by
      obtain ⟨hr, hrules⟩ := List.forall_mem_cons.mp h
      rw [List.flatMap_cons, List.filter_append, filter_flatMap_of_rule made name hrules]
      by_cases hname : r.name = name
      · have hown : (made r).filter (·.rule = name) = made r :=
          List.filter_eq_self.mpr fun report hreport =>
            decide_eq_true ((hr report hreport).trans hname)
        rw [hown, List.filter_cons_of_pos (by simpa using hname), List.flatMap_cons]
      · have hnone : (made r).filter (·.rule = name) = [] :=
          List.filter_eq_nil_iff.mpr fun report hreport => by
            rw [decide_eq_true_eq, hr report hreport]
            exact hname
        rw [hnone, List.filter_cons_of_neg (by simpa using hname), List.nil_append]

/-- **The reports of one name are the reports of the rules of that name.** -/
theorem filter_reportsInOrder (h : ∀ r ∈ rules, r.rule.ReportsThroughContext) (name : String) :
    (reportsInOrder document config rules).filter (·.rule = name) =
      reportsInOrder document config (rules.filter (·.name = name)) := by
  have hsetup := filter_flatMap_of_rule (·.reportsAtSetup document config) name
    fun r hr _ hreport => (ConfiguredRule.reports_of_mem_reportsAtSetup (h r hr) hreport).rule_eq
  have hseen := fun n => filter_flatMap_of_rule (·.reportsAt document config n) name
    fun r hr _ hreport => (ConfiguredRule.reports_of_mem_reportsAt (h r hr) hreport).rule_eq
  rw [reportsInOrder, List.filter_append, hsetup, List.filter_flatMap]
  simp only [hseen]
  rfl

/-- The order of the rules does not change which reports are made. -/
theorem reportsInOrder_perm (h : rules'.Perm rules) :
    (reportsInOrder document config rules').Perm (reportsInOrder document config rules) :=
  (h.flatMap_right _).append (List.Perm.flatMap_left _ fun _ _ => h.flatMap_right _)

/-! ## Messages bear the name of their rule -/

theorem Places.unique (h : Places document config rules placed)
    (h' : Places document config rules placed') : placed = placed' :=
  List.right_unique_forall₂' (fun _ _ _ hm hm' => Except.ok.inj (hm.symm.trans hm')) h h'

/-- **The messages of one name are placed for the rules of that name.** -/
theorem Places.filter (hthrough : ∀ r ∈ rules, r.rule.ReportsThroughContext) (name : String)
    (h : Places document config rules placed) :
    Places document config (rules.filter (·.name = name)) (placed.filter (·.ruleId = name)) := by
  rw [Places, ← filter_reportsInOrder hthrough, List.filter_comm]
  refine List.rel_filter (fun report m hm => ?_) h
  simp only [decide_eq_true_eq, (messageFor_spec hm).1]

/-- Rules in another order have their messages placed too, in another order. -/
theorem Places.perm (h : Places document config rules placed) (hperm : rules'.Perm rules) :
    ∃ placed', Places document config rules' placed' :=
  (List.perm_comp_forall₂ ((reportsInOrder_perm hperm).filter _) h).imp fun _ h => h.1

/-- Keys name rules, so lists with the same messages of each name have the same fibres. -/
theorem filter_key_eq {l l' : List LintMessage}
    (h : ∀ name, l.filter (·.ruleId = name) = l'.filter (·.ruleId = name))
    (k : (ℤ ×ₗ ℤ) ×ₗ String) : l.filter (·.key = k) = l'.filter (·.key = k) := by
  have hname : ∀ l : List LintMessage,
      l.filter (·.key = k) = (l.filter (·.ruleId = (ofLex k).2)).filter (·.key = k) := fun l => by
    rw [List.filter_filter]
    refine List.filter_congr fun m _ => ?_
    by_cases hm : m.key = k
    · subst hm
      simp [LintMessage.key]
    · simp [hm]
  rw [hname l, hname l', h]

/-! ## Rules with distinct names -/

/-- With distinct names there is one rule of each name. -/
theorem filter_name_eq_singleton : ∀ {rules : List ConfiguredRule},
    (rules.map (·.name)).Nodup → ∀ r ∈ rules, rules.filter (·.name = r.name) = [r]
  | r :: rules, h, r', hr' => by
      obtain ⟨hr, hrules⟩ := List.nodup_cons.mp (List.map_cons ▸ h)
      rcases List.mem_cons.mp hr' with rfl | hmem
      · have hnone : rules.filter (·.name = r'.name) = [] :=
          List.filter_eq_nil_iff.mpr fun x hx hname =>
            hr (List.mem_map.mpr ⟨x, hx, of_decide_eq_true hname⟩)
        rw [List.filter_cons_of_pos (by simp), hnone]
      · have hname : r.name ≠ r'.name := fun hname => hr (List.mem_map.mpr ⟨r', hmem, hname.symm⟩)
        rw [List.filter_cons_of_neg (by simpa using hname), filter_name_eq_singleton hrules r' hmem]

theorem filter_name_eq_of_perm (hnodup : (rules.map (·.name)).Nodup) (hperm : rules'.Perm rules)
    (name : String) : rules'.filter (·.name = name) = rules.filter (·.name = name) := by
  have hfilter := hperm.filter (·.name = name)
  by_cases h : ∃ r ∈ rules, r.name = name
  · obtain ⟨r, hr, rfl⟩ := h
    rw [filter_name_eq_singleton hnodup r hr] at hfilter ⊢
    exact List.perm_singleton.mp hfilter
  · have hnone : rules.filter (·.name = name) = [] :=
      List.filter_eq_nil_iff.mpr fun r hr hname => h ⟨r, hr, of_decide_eq_true hname⟩
    rw [hnone] at hfilter ⊢
    exact List.perm_nil.mp hfilter

/-- The messages of a rule among those of others are the ones that it returns by itself. -/
theorem run_own (hthrough : ∀ r ∈ rules, r.rule.ReportsThroughContext)
    (hnodup : (rules.map (·.name)).Nodup) (hrun : run document config rules = .ok messages)
    {r : ConfiguredRule} (hr : r ∈ rules) :
    run document config [r] = .ok (messages.filter (·.ruleId = r.name)) := by
  obtain ⟨hall, placed, hplaced, hsorted⟩ := run_eq_ok_iff_stablySorted.mp hrun
  have hown := hplaced.filter hthrough r.name
  rw [filter_name_eq_singleton hnodup r hr] at hown
  exact run_eq_ok_iff_stablySorted.mpr
    ⟨List.forall_mem_singleton.mpr (hall r hr), _, hown, hsorted.filter _⟩

/-- What is reported is reported by one of the rules. -/
theorem mem_reportsInOrder_iff {report : Report} :
    report ∈ reportsInOrder document config rules ↔
      ∃ r ∈ rules, report ∈ reportsInOrder document config [r] := by
  simp only [reportsInOrder, List.mem_append, List.mem_flatMap, List.mem_singleton]
  constructor
  · rintro (⟨r, hr, h⟩ | ⟨n, hn, r, hr, h⟩)
    · exact ⟨r, hr, Or.inl ⟨r, rfl, h⟩⟩
    · exact ⟨r, hr, Or.inr ⟨n, hn, r, rfl, h⟩⟩
  · rintro ⟨r, hr, ⟨r', rfl, h⟩ | ⟨n, hn, r', rfl, h⟩⟩
    · exact Or.inl ⟨r', hr, h⟩
    · exact Or.inr ⟨n, hn, r', hr, h⟩

/-- Through its context a rule reports all that it reports by itself. -/
theorem reports_of_mem_reportsInOrder {r : ConfiguredRule} {report : Report}
    (hr : r.rule.ReportsThroughContext) (h : report ∈ reportsInOrder document config [r]) :
    r.Reports document config report := by
  simp only [reportsInOrder, List.mem_append, List.mem_flatMap, List.mem_singleton] at h
  rcases h with ⟨_, rfl, h⟩ | ⟨n, -, _, rfl, h⟩
  · exact ConfiguredRule.reports_of_mem_reportsAtSetup hr h
  · exact ConfiguredRule.reports_of_mem_reportsAt hr h

/-- **Every message is one that a rule of its name returns by itself.** -/
theorem exists_own_of_mem_run (hthrough : ∀ r ∈ rules, r.rule.ReportsThroughContext)
    (hrun : run document config rules = .ok messages) {m : LintMessage} (hm : m ∈ messages) :
    ∃ r ∈ rules, r.name = m.ruleId ∧ ∃ own, run document config [r] = .ok own ∧ m ∈ own := by
  obtain ⟨hall, placed, hplaced, hsorted⟩ := run_eq_ok_iff_stablySorted.mp hrun
  obtain ⟨report, hreport, hplace⟩ := forall₂_right hplaced m (hsorted.perm.mem_iff.mp hm)
  obtain ⟨hmade, hon⟩ := List.mem_filter.mp hreport
  obtain ⟨r, hr, hown⟩ := mem_reportsInOrder_iff.mp hmade
  -- what the rule reports by itself is among the reports that are placed
  obtain ⟨placed', hplaced'⟩ : ∃ placed', Places document config [r] placed' :=
    exists_forall₂ fun report' hreport' => by
      obtain ⟨hmade', hon'⟩ := List.mem_filter.mp hreport'
      obtain ⟨m', -, hm'⟩ := forall₂_left hplaced report'
        (List.mem_filter.mpr ⟨mem_reportsInOrder_iff.mpr ⟨r, hr, hmade'⟩, hon'⟩)
      exact ⟨m', hm'⟩
  obtain ⟨m', hmem', hm'⟩ := forall₂_left hplaced' report (List.mem_filter.mpr ⟨hown, hon⟩)
  obtain rfl := Except.ok.inj (hplace.symm.trans hm')
  refine ⟨r, hr, ?_, placed'.mergeSort before, ?_, List.mem_mergeSort.mpr hmem'⟩
  · rw [(messageFor_spec hplace).1,
      (reports_of_mem_reportsInOrder (hthrough r hr) hown).rule_eq]
  · exact run_eq_ok_iff_stablySorted.mpr ⟨List.forall_mem_singleton.mpr (hall r hr), placed',
      hplaced', stablySorted_mergeSort before_iff placed'⟩

/-- **Rules do not interfere.**  Every rule there is reports through its context.  If rules that do,
under distinct names, return messages, then each rule by itself returns those of its name, and the
rules return the same messages in every order. -/
theorem run_noninterference :
    (∀ s : Script, s.rule.ReportsThroughContext) ∧
      (∀ b : BundledRule, b.rule.ReportsThroughContext) ∧
      ∀ {document : Document} {config : Value} {rules : List ConfiguredRule}
        {messages : List LintMessage}, (∀ r ∈ rules, r.rule.ReportsThroughContext) →
        (rules.map (·.name)).Nodup → run document config rules = .ok messages →
          (∀ r ∈ rules, run document config [r] = .ok (messages.filter (·.ruleId = r.name))) ∧
            ∀ rules', rules'.Perm rules → run document config rules' = .ok messages := by
  refine ⟨Script.reportsThroughContext, BundledRule.reportsThroughContext, ?_⟩
  intro document config rules messages hthrough hnodup hrun
  obtain ⟨hall, placed, hplaced, hsorted⟩ := run_eq_ok_iff_stablySorted.mp hrun
  constructor
  · intro r hr
    exact run_own hthrough hnodup hrun hr
  · intro rules' hperm
    obtain ⟨placed', hplaced'⟩ := hplaced.perm hperm
    have hthrough' : ∀ r ∈ rules', r.rule.ReportsThroughContext := fun r hr =>
      hthrough r (hperm.mem_iff.mp hr)
    -- the messages of one name do not depend on the order of the rules
    have hname : ∀ name, placed'.filter (·.ruleId = name) = placed.filter (·.ruleId = name) :=
      fun name => (filter_name_eq_of_perm hnodup hperm name ▸
        hplaced'.filter hthrough' name).unique (hplaced.filter hthrough name)
    refine run_eq_ok_iff_stablySorted.mpr
      ⟨fun r hr => hall r (hperm.mem_iff.mp hr), placed', hplaced', hsorted.pairwise, fun k => ?_⟩
    rw [hsorted.fibre, filter_key_eq hname]

/-- A script with a remark on every line. -/
def remarking (remark : String) : Script where
  onSetup := []
  handlers := some [(Document.lineKind, [⟨⟨none, none⟩, .report .node (.finding
    ⟨.value (.text remark), .value .none, .value .none, .value .none, .value .none⟩)⟩])]

/-- Two scripts with remarks at the same places, whose messages alternate. -/
theorem run_noninterference_remarking :
    let document : Document := ⟨['u', '\n', 'v'], none⟩
    let r : ConfiguredRule := ⟨"r", (remarking "first").rule, .bool true⟩
    let q : ConfiguredRule := ⟨"q", (remarking "second").rule, .bool true⟩
    ∃ messages, run document .none [r, q] = .ok messages ∧
      messages.map (·.ruleId) = ["q", "r", "q", "r"] ∧
      run document .none [r] = .ok (messages.filter (·.ruleId = "r")) ∧
      run document .none [q] = .ok (messages.filter (·.ruleId = "q")) ∧
      run document .none [q, r] = .ok messages := by
  intro document r q
  have hrun : run document .none [r, q] = .ok
      [⟨"q", .text "second", 0, 1, 1, .error, none⟩, ⟨"r", .text "first", 0, 1, 1, .error, none⟩,
        ⟨"q", .text "second", 2, 2, 1, .error, none⟩,
        ⟨"r", .text "first", 2, 2, 1, .error, none⟩] := by cbv
  have hthrough : ∀ x ∈ [r, q], x.rule.ReportsThroughContext :=
    List.forall_mem_cons.mpr ⟨Script.reportsThroughContext _,
      List.forall_mem_singleton.mpr (Script.reportsThroughContext _)⟩
  obtain ⟨hown, hperm⟩ := run_noninterference.2.2 hthrough (by decide) hrun
  exact ⟨_, hrun, rfl, hown r (by simp), hown q (by simp), hperm [q, r] (.swap r q [])⟩

end Lint

end ProseLinter
