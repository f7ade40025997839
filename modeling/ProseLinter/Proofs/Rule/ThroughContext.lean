import ProseLinter.Proofs.Outcome
import ProseLinter.Rule.Bundled
import ProseLinter.Rule.Script

/-!
# Proofs/Rule/ThroughContext — every rule reports through its context

A rule is a function, which could make up reports in the name of another rule.  None does: scripts
and the rules that come with the linter hand each report to the context that they were set up with
(`Script.reportsThroughContext`, `BundledRule.reportsThroughContext`), and the context signs it with
the name of the rule (`Context.Made.rule_eq`).
-/

namespace ProseLinter

/-- **Reports made through a context**: each of them is what the context made of some payload. -/
def Context.Made (context : Context) (made : List Report) : Prop :=
  ∀ r ∈ made, ∃ node payload, context.report node payload = .ok r

namespace Context.Made

variable {context : Context} {made made' : List Report} {r : Report}

theorem nil : context.Made [] := fun _ hr => absurd hr List.not_mem_nil

theorem cons {node payload : Value} (hr : context.report node payload = .ok r)
    (h : context.Made made) : context.Made (r :: made) :=
  List.forall_mem_cons.mpr ⟨⟨node, payload, hr⟩, h⟩

theorem append (h : context.Made made) (h' : context.Made made') :
    context.Made (made ++ made') :=
  List.forall_mem_append.mpr ⟨h, h'⟩

/-- The context signs its reports. -/
theorem rule_eq (h : context.Made made) (hr : r ∈ made) : r.rule = context.rule := by
  obtain ⟨node, payload, hreport⟩ := h r hr
  exact (Context.report_eq hreport).1

end Context.Made

/-- **A rule that reports through its context**, both when it is set up and at every node. -/
structure Rule.ReportsThroughContext (rule : Rule) : Prop where
  setup : ∀ {context options handlers}, rule context options = .ok handlers →
    context.Made handlers.reports
  onNode : ∀ {context options handlers}, rule context options = .ok handlers →
    ∀ {n made}, handlers.onNode n = .ok made → context.Made made

/-! ## Scripts -/

namespace Script

variable {context : Context} {options : List (String × Value)} {seen : Option TextNode}

theorem Action.made_run {a : Action} {made : List Report}
    (h : a.run context options seen = .ok made) : context.Made made := by
  obtain ⟨applies, -, h⟩ := bind_eq_ok_iff.mp h
  cases applies with
  | false =>
    cases h
    exact .nil
  | true =>
    cases heffect : a.effect with
    | raise kind arguments =>
      rw [heffect] at h
      obtain ⟨_, -, h⟩ := bind_eq_ok_iff.mp h
      cases h
    | report target payload =>
      rw [heffect] at h
      obtain ⟨node, -, h⟩ := bind_eq_ok_iff.mp h
      obtain ⟨payload, -, h⟩ := bind_eq_ok_iff.mp h
      obtain ⟨r, hr, h⟩ := bind_eq_ok_iff.mp h
      cases h
      exact .cons hr .nil

theorem made_runAll : ∀ {actions : List Action} {made : List Report},
    runAll context options seen actions = .ok made → context.Made made
  | [], _, h => by
      cases h
      exact .nil
  | a :: actions, _, h => by
      obtain ⟨first, hfirst, h⟩ := bind_eq_ok_iff.mp h
      obtain ⟨rest, hrest, h⟩ := bind_eq_ok_iff.mp h
      cases h
      exact .append (Action.made_run hfirst) (made_runAll hrest)

/-- Some actions, if any, are what a script does with a node. -/
theorem onNode_map {table : List (String × List Action)} {first : List Report} {n : TextNode} :
    Handlers.onNode ⟨first, table.map fun (kind, actions) =>
        (kind, fun n => runAll context options (some n) actions)⟩ n =
      runAll context options (some n) ((table.lookup n.kind).getD []) := by
  induction table with
  | nil => rfl
  | cons entry table ih =>
    obtain ⟨kind, actions⟩ := entry
    simp only [Handlers.onNode, List.map_cons, List.lookup_cons] at ih ⊢
    cases n.kind == kind with
    | true => rfl
    | false => exact ih

/-- **Scripts report through their context.** -/
theorem reportsThroughContext (s : Script) : s.rule.ReportsThroughContext where
  setup h := by
    obtain ⟨first, hfirst, h⟩ := bind_eq_ok_iff.mp h
    cases h
    exact made_runAll hfirst
  onNode h n made hmade := by
    obtain ⟨first, -, h⟩ := bind_eq_ok_iff.mp h
    cases h
    rw [onNode_map] at hmade
    exact made_runAll hmade

end Script

/-! ## The rules that come with the linter -/

/-- A rule that reports only at lines does there what its handler does, and nothing elsewhere. -/
theorem Handlers.onNode_line {first made : List Report} {handler : Handler} {n : TextNode}
    (h : Handlers.onNode ⟨first, [(Document.lineKind, handler)]⟩ n = .ok made) :
    made = [] ∨ handler n = .ok made := by
  simp only [Handlers.onNode, List.lookup_cons, List.lookup_nil] at h
  cases hkind : n.kind == Document.lineKind with
  | true =>
    rw [hkind] at h
    exact Or.inr h
  | false =>
    rw [hkind] at h
    cases h
    exact Or.inl rfl

theorem Markers.made_reportAll {context : Context} {n : TextNode} :
    ∀ {found : List (ℕ × List Char)} {made : List Report},
      reportAll context n found = .ok made → context.Made made
  | [], _, h => by
      cases h
      exact .nil
  | (i, word) :: found, _, h => by
      obtain ⟨r, hr, h⟩ := bind_eq_ok_iff.mp h
      obtain ⟨rest, hrest, h⟩ := bind_eq_ok_iff.mp h
      cases h
      exact .cons hr (made_reportAll hrest)

/-- The rule on markers gives no handlers, or one for lines. -/
theorem Markers.handlers_eq {context : Context} {options : List (String × Value)}
    {handlers : Handlers} (h : Markers.rule context options = .ok handlers) :
    handlers = .idle ∨ ∃ words, handlers = ⟨[], [(Document.lineKind, onLine words context)]⟩ := by
  obtain ⟨words, -, h⟩ := bind_eq_ok_iff.mp h
  cases hempty : words.isEmpty with
  | true =>
    rw [hempty] at h
    cases h
    exact Or.inl rfl
  | false =>
    rw [hempty] at h
    cases h
    exact Or.inr ⟨words, rfl⟩

theorem Markers.reportsThroughContext : Markers.rule.ReportsThroughContext where
  setup h := by
    rcases handlers_eq h with rfl | ⟨words, rfl⟩
    exacts [.nil, .nil]
  onNode h n made hmade := by
    rcases handlers_eq h with rfl | ⟨words, rfl⟩
    · cases hmade
      exact .nil
    · rcases Handlers.onNode_line hmade with rfl | hline
      exacts [.nil, made_reportAll hline]

theorem TrailingSpaces.made_onLine {context : Context} {skipBlank : Bool} {n : TextNode}
    {made : List Report} (h : onLine context skipBlank n = .ok made) : context.Made made := by
  unfold onLine at h
  simp only at h
  split at h
  · cases h
    exact .nil
  · split at h
    · cases h
      exact .nil
    · obtain ⟨fix, -, h⟩ := bind_eq_ok_iff.mp h
      obtain ⟨r, hr, h⟩ := bind_eq_ok_iff.mp h
      cases h
      exact .cons hr .nil

theorem TrailingSpaces.reportsThroughContext : TrailingSpaces.rule.ReportsThroughContext where
  setup h := by
    cases h
    exact .nil
  onNode h n made hmade := by
    cases h
    rcases Handlers.onNode_line hmade with rfl | hline
    exacts [.nil, made_onLine hline]

/-- **The rules that come with the linter report through their context.** -/
theorem BundledRule.reportsThroughContext : ∀ b : BundledRule, b.rule.ReportsThroughContext
  | markers => Markers.reportsThroughContext
  | trailingSpaces => TrailingSpaces.reportsThroughContext

end ProseLinter
