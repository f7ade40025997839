import ProseLinter.CommandLine.Run
import ProseLinter.Proofs.Config.Load
import ProseLinter.Proofs.Config.Usable

/-!
# Proofs/CommandLine/Settings — which rules the arguments enable

A rule that is named by an argument is put behind the configured ones, unless it is one of them
(`Config.withRules_eq`).  So the arguments enable the rules that are not configured, and those only:
a rule that is configured keeps its value, and stays off if it is off (`settings_rules`,
`settings_rules_off`).
-/

namespace ProseLinter

namespace Config

variable {α : Type} {depth : ℕ} {contentOf : α → List UInt8} {tree : Entry α} {cwd : Location}
  {path : Option Path} {c : Config} {rules : List (String × Value)} {names : List String}
  {name : String}

/-! ## The rules that names put in -/

/-- **The names that are new**: those of no configured rule, each of them once. -/
def newNames (rules : List (String × Value)) (names : List String) : List String :=
  (names.filter fun name => (rules.lookup name).isNone).eraseDups

theorem mem_newNames_iff :
    name ∈ newNames rules names ↔ name ∈ names ∧ rules.lookup name = none := by
  rw [newNames, List.mem_eraseDups, List.mem_filter, Option.isNone_iff_eq_none]

/-- **New names are put behind the configured rules**, switched on and in the order in which they
come up. -/
theorem withRules_eq : ∀ (names : List String) (rules : List (String × Value)),
    withRules rules names =
      rules ++ (newNames rules names).map fun name => (name, Value.bool true)
  | [], rules => by
      rw [withRules, newNames, List.filter_nil, List.eraseDups_nil, List.map_nil, List.append_nil]
  | name :: names, rules => by
      rw [withRules, withRules_eq names]
      cases hlookup : rules.lookup name with
      | some v =>
        rw [if_pos (by simp), newNames, newNames, List.filter_cons_of_neg (by simp [hlookup])]
      | none =>
        -- the name is configured when it comes up again
        have hagain : ∀ n, ((rules ++ [(name, Value.bool true)]).lookup n).isNone =
            (!n == name && (rules.lookup n).isNone) := fun n => by
          rw [List.lookup_append, List.lookup_cons, List.lookup_nil]
          cases n == name <;> cases rules.lookup n <;> rfl
        rw [if_neg (by simp), newNames, newNames, List.filter_cons_of_pos (by simp [hlookup]),
          List.eraseDups_cons, List.map_cons, List.append_assoc, List.singleton_append,
          List.filter_filter]
        simp only [hagain]

/-- A configured rule keeps its value… -/
theorem lookup_withRules_of_isSome (h : (rules.lookup name).isSome = true) (names : List String) :
    (withRules rules names).lookup name = rules.lookup name := by
  obtain ⟨v, hv⟩ := Option.isSome_iff_exists.mp h
  rw [withRules_eq, List.lookup_append, hv, Option.some_or]

/-- …and a new one is switched on. -/
theorem lookup_withRules_of_mem (h : name ∈ newNames rules names) :
    (withRules rules names).lookup name = some (.bool true) := by
  have hon : ∀ {l : List String}, name ∈ l →
      (l.map fun name => (name, Value.bool true)).lookup name = some (.bool true) := by
    intro l hl
    induction l with
    | nil => cases hl
    | cons first l ih =>
      rw [List.map_cons, List.lookup_cons]
      cases hfirst : name == first with
      | true => rfl
      | false => exact ih ((List.mem_cons.mp hl).resolve_left (by simpa using hfirst))
  rw [withRules_eq, List.lookup_append, (mem_newNames_iff.mp h).2, Option.none_or, hon h]

/-- The configured names are those that are found. -/
theorem isSome_lookup_iff : (rules.lookup name).isSome = true ↔ name ∈ rules.map (·.1) := by
  constructor
  · intro h
    obtain ⟨v, hv⟩ := Option.isSome_iff_exists.mp h
    exact List.mem_map.mpr ⟨_, Entry.mem_of_lookup hv, rfl⟩
  · intro h
    obtain ⟨r, hr, rfl⟩ := List.mem_map.mp h
    by_contra hnone
    rw [Bool.not_eq_true, Option.isSome_eq_false_iff, Option.isNone_iff_eq_none,
      List.lookup_eq_none_iff] at hnone
    simpa using hnone r hr

section

variable {c' : Config} (hrules : c'.rules = withRules c.rules names)

include hrules

/-- Settings with more rules keep the configuration of each rule… -/
theorem ruleConfig_of_withRules (hname : name ∈ c.rules.map (·.1)) :
    c'.ruleConfig name = c.ruleConfig name := by
  rw [ruleConfig, ruleConfig, hrules, lookup_withRules_of_isSome (isSome_lookup_iff.mpr hname)]

/-- …and switch the new ones on. -/
theorem severity_of_withRules (hname : name ∈ newNames c.rules names) :
    c'.severity name = .ok .error := by
  rw [severity, ruleConfig, hrules, lookup_withRules_of_mem hname]
  rfl

/-- **The new rules are enabled**, and otherwise those that were enabled before. -/
theorem enabledRules_of_withRules
    (hsevere : ∀ name ∈ c.rules.map (·.1), ∃ s, c.severity name = .ok s) :
    ∃ enabled, c.enabledRules = .ok enabled ∧
      c'.enabledRules = .ok (enabled ++ newNames c.rules names) ∧
      ∀ name, name ∈ enabled ↔ name ∈ c.rules.map (·.1) ∧ c.severity name ≠ .ok .off := by
  have hkept : ∀ name ∈ c.rules.map (·.1), c'.severity name = c.severity name :=
    fun name hname => congrArg Severity.ofConfig (ruleConfig_of_withRules hrules hname)
  have hnames : c'.rules.map (·.1) = c.rules.map (·.1) ++ newNames c.rules names := by
    rw [hrules, withRules_eq, List.map_append, List.map_map]
    exact congrArg _ (List.map_id _)
  have hall : ∀ name ∈ c.rules.map (·.1) ++ newNames c.rules names,
      ∃ s, c'.severity name = .ok s :=
    List.forall_mem_append.mpr ⟨fun name hname => hkept name hname ▸ hsevere name hname,
      fun name hname => ⟨_, severity_of_withRules hrules hname⟩⟩
  have hon : (newNames c.rules names).filter (fun name =>
      (c'.severity name).toOption ≠ some .off) = newNames c.rules names :=
    List.filter_eq_self.mpr fun name hname => by
      rw [severity_of_withRules hrules hname]
      decide
  refine ⟨_, enabledAmong_eq hsevere, ?_, fun name => ?_⟩
  · rw [enabledRules, hnames, enabledAmong_eq hall, List.filter_append, hon]
    exact congrArg (fun l => Except.ok (l ++ newNames c.rules names))
      (List.filter_congr fun name hname => by rw [hkept name hname])
  · rw [List.mem_filter, decide_eq_true_eq]
    cases c.severity name <;> simp [Except.toOption]

end

/-! ## Settings that were loaded -/

/-- **What is loaded was accepted**: the settings come from a table without defects. -/
theorem exists_ofValue_of_load (h : load depth contentOf tree cwd path = .ok c) :
    ∃ file entries, ofValue file (.table entries) = .ok c := by
  have hfile : ∀ {p}, ofFile depth contentOf tree cwd p = .ok c →
      ∃ file entries, ofValue file (.table entries) = .ok c := fun {p} hp => by
    unfold ofFile at hp
    split at hp
    · unfold ofBytes at hp
      split at hp
      · cases hp
      · simp only at hp
        split at hp
        · unfold ofDocument at hp
          split at hp
          · obtain ⟨entries, hentries, -⟩ := ofValue_eq_ok_iff.mp hp
            exact ⟨_, entries, hentries ▸ hp⟩
          · cases hp
        all_goals cases hp
    all_goals cases hp
  unfold load at h
  split at h
  · exact hfile h
  · split at h
    · exact hfile h
    · exact ⟨none, [], h⟩
    · cases h

/-- Every rule of loaded settings has a severity. -/
theorem exists_severity_of_load (h : load depth contentOf tree cwd path = .ok c)
    (hname : name ∈ c.rules.map (·.1)) : ∃ s, c.severity name = .ok s := by
  obtain ⟨file, entries, hvalue⟩ := exists_ofValue_of_load h
  obtain ⟨v, hv⟩ := Option.isSome_iff_exists.mp (isSome_lookup_iff.mpr hname)
  have hdefect := (rules_of_accepted hvalue).2 _ (Entry.mem_of_lookup hv)
  rw [severity, ruleConfig, hv]
  exact exists_severity_of_ruleDefect hdefect

end Config

/-! ## The settings of a run -/

namespace CommandLine

variable {α : Type} {depth : ℕ} {contentOf : α → List UInt8} {tree : Entry α} {cwd : Location}
  {path : Option Path} {config : Config}

/-- **Which rules the arguments enable.**  The rules of a run are the configured ones, in their
order and with their values, and behind them the names that the arguments give and that are not
configured.  The latter are enabled, and otherwise what was enabled before: so a name that is given
is enabled unless it is that of a configured rule which is off. -/
theorem settings_rules (h : Config.load depth contentOf tree cwd path = .ok config)
    (a : Arguments) :
    let given := a.all "--rule"
    let added := Config.newNames config.rules given
    let c := settings config (a.last? "--format") (colorOf a) given
    c.rules = config.rules ++ added.map (fun name => (name, .bool true)) ∧
      (∀ name ∈ config.rules.map (·.1), c.ruleConfig name = config.ruleConfig name) ∧
      ∃ enabled, config.enabledRules = .ok enabled ∧ c.enabledRules = .ok (enabled ++ added) ∧
        ∀ name ∈ given, name ∈ enabled ++ added ↔
          (name ∈ config.rules.map (·.1) → config.severity name ≠ .ok .off) := by
  intro given added c
  have hwith : c.rules = Config.withRules config.rules given := rfl
  obtain ⟨enabled, henabled, hall, hmem⟩ :=
    Config.enabledRules_of_withRules hwith fun name => Config.exists_severity_of_load h
  refine ⟨hwith.trans (Config.withRules_eq given config.rules),
    fun name => Config.ruleConfig_of_withRules hwith, enabled, henabled, hall, fun name hname => ?_⟩
  rw [List.mem_append, hmem, Config.mem_newNames_iff, ← Option.not_isSome_iff_eq_none,
    Config.isSome_lookup_iff]
  tauto

/-- Settings with one rule, which is off. -/
def switchedOff : Config := { Config.default with path := some "/p", rules := [("r", .bool false)] }

/-- A configuration file with one rule, which is off. -/
def offFile : Entry (List UInt8) :=
  .directory [("p", .file (Text.encode "tool.textguard.rules.r=false".toList))]

theorem load_offFile (depth : ℕ) :
    Config.load depth id offFile [] (some ⟨.absolute, ["p"]⟩) = .ok switchedOff := by
  have hfree : offFile.LinkFree := ⟨by decide, by decide, by decide⟩
  have hread : offFile.read [] ⟨.absolute, ["p"]⟩ =
      .ok (Text.encode "tool.textguard.rules.r=false".toList) := hfree.read_eq (by decide) [] rfl
  have hfeeds : Text.joinReturns "tool.textguard.rules.r=false".toList =
      "tool.textguard.rules.r=false".toList := by decide
  have hentries : Toml.read depth "tool.textguard.rules.r=false".toList =
      .ok [("tool", .table [("textguard", .table [("rules", .table [("r", .bool false)])])])] := by
    cbv
  exact (Config.ofFile_of_holdsEntries ⟨_, ⟨_, _, hread, rfl, hfeeds.symm⟩, hentries⟩).trans
    (by rfl)

/-- A name that is given and configured as off, and another one that is given twice. -/
theorem settings_rules_mixed :
    let a : Arguments := ⟨[("--rule", "q"), ("--rule", "r"), ("--rule", "q")], []⟩
    let c := settings switchedOff (a.last? "--format") (colorOf a) (a.all "--rule")
    c.rules = [("r", .bool false), ("q", .bool true)] ∧ c.enabledRules = .ok ["q"] := by
  intro a c
  obtain ⟨hrules, -, enabled, henabled, hall, -⟩ := settings_rules (load_offFile 0) a
  obtain rfl : enabled = [] := Except.ok.inj (henabled.symm.trans (by rfl))
  exact ⟨hrules.trans (by rfl), hall.trans (by rfl)⟩

/-- **A rule that is off is not enabled** by giving its name. -/
theorem settings_rules_off :
    let a : Arguments := ⟨[("--rule", "r")], []⟩
    parse Command.lint.options true ["--rule", "r"] = .ok a ∧
      (∀ depth, Config.load depth id offFile [] (some ⟨.absolute, ["p"]⟩) = .ok switchedOff) ∧
      "r" ∈ a.all "--rule" ∧
      (settings switchedOff (a.last? "--format") (colorOf a) (a.all "--rule")).enabledRules =
        .ok [] :=
  ⟨by cbv, load_offFile, by decide, by rfl⟩

end CommandLine

end ProseLinter
