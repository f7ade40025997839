import ProseLinter.Proofs.Config.Accepted
import ProseLinter.Proofs.Context.Session
import ProseLinter.Proofs.FileTree.Sound
import ProseLinter.Proofs.Lint.Noninterference
import ProseLinter.Proofs.Run.Files

/-!
# Proofs/Config/Usable — what is accepted can be used

The severity of a rule is read three times: when settings are checked, when the enabled rules are
picked, and when a context is opened for the rule.  All three agree on accepted settings: every rule
has a severity, at which its context is opened, and the enabled rules are those that are not off
(`Config.enabledRules_of_accepted`).  So what an enabled rule finds is told by a message at its
severity (`Config.told_of_run`).
-/

namespace ProseLinter

/-! ## Every accepted rule has a severity -/

/-- Without a severity, a configuration value asks for an unknown one. -/
theorem Severity.eq_unknownSeverity_of_ofConfig {v : Value} {e : Failure}
    (h : ofConfig v = .error e) : ∃ asked, e = .unknownSeverity asked := by
  unfold ofConfig at h
  split at h
  · cases h
  · cases h
  · exact ⟨_, eq_unknownSeverity_of_ofValue h⟩
  · exact ⟨_, eq_unknownSeverity_of_ofValue h⟩
  · split at h
    · exact ⟨_, eq_unknownSeverity_of_ofValue h⟩
    · cases h
  · cases h

namespace Config

variable {path : Option String} {entries : List (String × Value)} {c : Config}

/-- **A value without a defect has a severity.** -/
theorem exists_severity_of_ruleDefect {name : String} {v : Value} (h : ruleDefect name v = none) :
    ∃ s, Severity.ofConfig v = .ok s := by
  cases hv : Severity.ofConfig v with
  | ok s => exact ⟨s, rfl⟩
  | error e =>
    obtain ⟨asked, rfl⟩ := Severity.eq_unknownSeverity_of_ofConfig hv
    unfold ruleDefect at h
    rw [hv] at h
    cases v <;> cases h

/-- With distinct names each rule has its own value. -/
theorem ruleConfig_of_mem (hkeys : (c.rules.map (·.1)).Nodup) {r : String × Value}
    (hr : r ∈ c.rules) : c.ruleConfig r.1 = r.2 := by
  rw [ruleConfig, (Entry.lookup_eq_some_iff_mem hkeys).mpr hr]
  rfl

/-- **The rules that are not off**, of those that have a severity. -/
theorem enabledAmong_eq : ∀ {names : List String}, (∀ name ∈ names, ∃ s, c.severity name = .ok s) →
    c.enabledAmong names =
      .ok (names.filter fun name => (c.severity name).toOption ≠ some .off)
  | [], _ => rfl
  | name :: names, h => by
    obtain ⟨⟨s, hs⟩, hnames⟩ := List.forall_mem_cons.mp h
    rw [enabledAmong, hs, enabledAmong_eq hnames]
    cases s <;> simp [hs, Except.toOption, bind, Except.bind, pure, Except.pure]

/-- **Accepted settings are read alike** everywhere: each rule has a severity, at which every context
of its value is opened… -/
theorem exists_severity_of_accepted (hkeys : (c.rules.map (·.1)).Nodup)
    (h : ofValue path (.table entries) = .ok c) {r : String × Value} (hr : r ∈ c.rules) :
    ∃ s, c.severity r.1 = .ok s ∧ ∀ document config,
      Context.ofConfig r.1 document config r.2 = .ok ⟨r.1, document, config, s⟩ := by
  obtain ⟨s, hs⟩ := exists_severity_of_ruleDefect ((rules_of_accepted h).2 r hr)
  refine ⟨s, ?_, fun document config => ?_⟩
  · rw [severity, ruleConfig_of_mem hkeys hr, hs]
  · rw [Context.ofConfig, hs]

/-- …and the enabled rules are those that are not off, in their order. -/
theorem enabledRules_of_accepted (hkeys : (c.rules.map (·.1)).Nodup)
    (h : ofValue path (.table entries) = .ok c) :
    c.enabledRules =
      .ok ((c.rules.map (·.1)).filter fun name => (c.severity name).toOption ≠ some .off) :=
  enabledAmong_eq <| List.forall_mem_map.mpr fun _ hr =>
    (exists_severity_of_accepted hkeys h hr).imp fun _ hs => hs.1

end Config

/-! ## What an enabled rule finds -/

/-- **A rule that settings enable**: it is configured by them and reports through its context. -/
structure ConfiguredRule.IsEnabled (c : Config) (r : ConfiguredRule) : Prop where
  name : ∃ names, c.enabledRules = .ok names ∧ r.name ∈ names
  config : r.config = c.ruleConfig r.name
  through : r.rule.ReportsThroughContext

/-- The rules that a run loads for settings are enabled by them. -/
theorem Run.isEnabled_of_loadRules {family : Family} {c : Config} {cwd : Option Path}
    {w : Workspace} {rules : List ConfiguredRule}
    (h : ((loadRules family c cwd).run w).2 = .ok rules) : ∀ r ∈ rules, r.IsEnabled c := by
  intro r hr
  obtain ⟨names, name, e, hnames, hname, rfl⟩ := exists_extension_of_loadRules h hr
  exact ⟨⟨names, hnames, hname⟩, rfl, e.function.reportsThroughContext⟩

namespace Config

variable {c : Config} {document : Document} {config : Value} {rules : List ConfiguredRule}
  {messages : List LintMessage}

/-- **A finding is reported at the severity of its rule.** -/
theorem severity_of_finding {r : ConfiguredRule} {report : Report} (hr : r.IsEnabled c)
    (h : r.Reports document config report) (hfinding : report.payload.isFinding = true) :
    c.severity report.rule = .ok report.severity := by
  rw [h.rule_eq, severity, ← hr.config]
  obtain ⟨context, node, payload, hcontext, hreport⟩ := h
  have hseverity : Severity.ofConfig r.config = .ok context.severity := by
    unfold Context.ofConfig at hcontext
    split at hcontext
    · next s hs =>
      cases hcontext
      exact hs
    · cases hcontext
  rcases context.report_cases node payload with ⟨-, misuse, herror⟩ | ⟨-, s, hat, hok⟩
  · rw [herror] at hreport
    cases hreport
  · obtain rfl := Except.ok.inj (hok.symm.trans hreport)
    cases hat with
    | finding => exact hseverity
    | unasked hnone => rw [hnone] at hfinding; cases hfinding
    | asked hnone => rw [hnone] at hfinding; cases hfinding

/-- No enabled rule is off. -/
theorem severity_ne_off_of_enabledAmong : ∀ {all names : List String},
    c.enabledAmong all = .ok names → ∀ name ∈ names, c.severity name ≠ .ok .off
  | [], _, h => by
    obtain rfl := Except.ok.inj h
    simp
  | first :: all, _, h => by
    obtain ⟨s, hs, h⟩ := bind_eq_ok_iff.mp h
    obtain ⟨more, hmore, h⟩ := bind_eq_ok_iff.mp h
    have hrest := severity_ne_off_of_enabledAmong hmore
    obtain rfl := Except.ok.inj h
    split
    · exact hrest
    · next hoff =>
      refine List.forall_mem_cons.mpr ⟨?_, hrest⟩
      rw [hs]
      exact fun h => hoff (Except.ok.inj h)

/-- **What enabled rules find** is reported at the severity of its rule, which is not off. -/
theorem severity_of_reported (henabled : ∀ r ∈ rules, r.IsEnabled c) {report : Report}
    (hreport : report ∈ Lint.reportsInOrder document config rules)
    (hfinding : report.payload.isFinding = true) :
    c.severity report.rule = .ok report.severity ∧ report.severity ≠ .off := by
  obtain ⟨r, hr, hown⟩ := Lint.mem_reportsInOrder_iff.mp hreport
  have hreports := Lint.reports_of_mem_reportsInOrder (henabled r hr).through hown
  have hseverity := severity_of_finding (henabled r hr) hreports hfinding
  obtain ⟨names, hnames, hmem⟩ := (henabled r hr).name
  refine ⟨hseverity, fun hoff => ?_⟩
  rw [hreports.rule_eq, hoff] at hseverity
  exact severity_ne_off_of_enabledAmong hnames _ hmem hseverity

/-- So no report of a finding is left out for being off. -/
theorem filter_findings (henabled : ∀ r ∈ rules, r.IsEnabled c) :
    ((Lint.reportsInOrder document config rules).filter (·.severity ≠ .off)).filter
        (·.payload.isFinding) =
      (Lint.reportsInOrder document config rules).filter (·.payload.isFinding) := by
  rw [List.filter_filter]
  refine List.filter_congr fun report hreport => ?_
  cases hfinding : report.payload.isFinding with
  | true => simp [(severity_of_reported henabled hreport hfinding).2]
  | false => rfl

/-- **What enabled rules find is told**: if a run returns messages, each report of a finding has a
message of its own among them, which bears the name of the rule and its severity, a warning or an
error. -/
theorem told_of_run (henabled : ∀ r ∈ rules, r.IsEnabled c)
    (h : Lint.run document config rules = .ok messages) :
    ∃ made told, Lint.reports document config rules = .ok made ∧
      List.Forall₂ (fun report m => Lint.messageFor (.ofText document.text) report = .ok m ∧
          m.ruleId = report.rule ∧ c.severity report.rule = .ok m.severity ∧
          (m.severity = .warning ∨ m.severity = .error))
        (made.filter (·.payload.isFinding)) told ∧
      told.Subperm messages := by
  obtain ⟨hall, placed, hplaced, hsorted⟩ := Lint.run_eq_ok_iff_stablySorted.mp h
  obtain ⟨told, htold, hsub⟩ := exists_sublist_of_forall₂ (·.payload.isFinding) hplaced
  rw [filter_findings henabled] at htold
  have hboth := (List.forall₂_and_left _ _).mpr
    ⟨fun report hreport => severity_of_reported henabled (List.mem_filter.mp hreport).1
      (List.mem_filter.mp hreport).2, htold⟩
  refine ⟨_, told, Lint.reports_eq_ok_iff.mpr ⟨hall, rfl⟩, hboth.imp ?_,
    hsub.subperm.trans hsorted.perm.symm.subperm⟩
  rintro report m ⟨⟨hseverity, hoff⟩, hm⟩
  obtain ⟨hrule, hlevel, -⟩ := Lint.messageFor_spec hm
  rw [hlevel]
  refine ⟨hm, hrule, hseverity, ?_⟩
  cases hs : report.severity with
  | off => exact absurd hs hoff
  | warning => exact Or.inl rfl
  | error => exact Or.inr rfl

/-- **What is accepted can be used.**  Settings that are accepted from a table have its rules, in its
order and with its values.  Every rule has a severity, at which each context of its value is opened;
the enabled rules are those that are not off, and what a run loads are enabled rules.  If a run of
enabled rules returns messages, each finding that was reported is told by a message of its own, a
warning or an error at the severity of its rule. -/
theorem usable_of_accepted {path : Option String} {entries : List (String × Value)}
    (hkeys : ((rulesIn entries).map (·.1)).Nodup) (h : ofValue path (.table entries) = .ok c) :
    c.rules = rulesIn entries ∧
      (∀ r ∈ c.rules, ∃ s, c.severity r.1 = .ok s ∧ ∀ document config,
        Context.ofConfig r.1 document config r.2 = .ok ⟨r.1, document, config, s⟩) ∧
      c.enabledRules =
        .ok ((c.rules.map (·.1)).filter fun name => (c.severity name).toOption ≠ some .off) ∧
      (∀ {family cwd w rules}, ((Run.loadRules family c cwd).run w).2 = .ok rules →
        ∀ r ∈ rules, r.IsEnabled c) ∧
      ∀ {document config} {rules : List ConfiguredRule} {messages}, (∀ r ∈ rules, r.IsEnabled c) →
        Lint.run document config rules = .ok messages →
          ∃ made told, Lint.reports document config rules = .ok made ∧
            List.Forall₂ (fun report m => Lint.messageFor (.ofText document.text) report = .ok m ∧
                m.ruleId = report.rule ∧ c.severity report.rule = .ok m.severity ∧
                (m.severity = .warning ∨ m.severity = .error))
              (made.filter (·.payload.isFinding)) told ∧
            told.Subperm messages := by
  have hrules := (rules_of_accepted h).1
  rw [← hrules] at hkeys
  exact ⟨hrules, fun r hr => exists_severity_of_accepted hkeys h hr,
    enabledRules_of_accepted hkeys h, Run.isEnabled_of_loadRules, told_of_run⟩

/-- A rule that is off and one with a remark, which is told. -/
theorem usable_of_accepted_remarking :
    let c : Config := { default with rules := [("q", .bool false), ("r", .bool true)] }
    let document : Document := ⟨['u'], none⟩
    let r : ConfiguredRule := ⟨"r", (Lint.remarking "first").rule, .bool true⟩
    ofValue none (.table [("rules", .table [("q", .bool false), ("r", .bool true)])]) = .ok c ∧
      c.enabledRules = .ok ["r"] ∧
      ∃ (messages : List LintMessage) (m : LintMessage),
        Lint.run document .none [r] = .ok messages ∧ m ∈ messages ∧ m.ruleId = "r" ∧
          c.severity "r" = .ok m.severity := by
  intro c document r
  have hc : ofValue none (.table [("rules", .table [("q", .bool false), ("r", .bool true)])]) =
      .ok c := by rfl
  obtain ⟨-, -, hnames, -, htold⟩ := usable_of_accepted (by decide) hc
  have hr : r.IsEnabled c := ⟨⟨_, hnames, by decide⟩, rfl, Script.reportsThroughContext _⟩
  have hrun : Lint.run document .none [r] = .ok [⟨"r", .text "first", 0, 1, 1, .error, none⟩] := by
    cbv
  obtain ⟨made, told, hmade, hmessages, hsub⟩ := htold (List.forall_mem_singleton.mpr hr) hrun
  have hreport : ∃ report, Lint.reports document .none [r] = .ok [report] ∧
      report.payload.isFinding = true ∧ report.rule = "r" := ⟨_, rfl, rfl, rfl⟩
  obtain ⟨report, hmade', hfinding, hrule⟩ := hreport
  obtain rfl := Except.ok.inj (hmade'.symm.trans hmade)
  have hfound : [report].filter (·.payload.isFinding) = [report] := by simp [hfinding]
  rw [hfound] at hmessages
  obtain ⟨m, rest, ⟨-, hid, hseverity, -⟩, -, rfl⟩ := List.forall₂_cons_left_iff.mp hmessages
  rw [hrule] at hid hseverity
  exact ⟨hc, hnames.trans (by rfl), _, m, hrun, hsub.subset List.mem_cons_self, hid, hseverity⟩

end Config

end ProseLinter
