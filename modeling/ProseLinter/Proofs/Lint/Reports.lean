import ProseLinter.Lint
import ProseLinter.Proofs.Outcome

/-!
# Proofs/Lint/Reports — which reports a run makes, and in which order

A run interleaves the rules: it sets them up one after the other and then shows every node to each
of them.  `reports_eq_ok_iff` takes the rules apart again: a run has reports exactly if each rule by
itself **completes**, and then they are `reportsInOrder`, which is put together from what each rule
reports by itself, at its setup and at each node.
-/

namespace ProseLinter

section

variable (document : Document) (config : Value)

/-- What a rule gives when it is set up on a document. -/
def ConfiguredRule.handlers (r : ConfiguredRule) : Except Failure Handlers := do
  let context ← Context.ofConfig r.name document config r.config
  r.rule context (ruleOptions r.config)

/-- What handlers report at a node, or nothing if they fail. -/
def Handlers.seen (h : Handlers) (n : TextNode) : List Report := (h.onNode n).toOption.getD []

/-- **A rule completes** on a document: it is set up, and its handlers fail at no node. -/
def ConfiguredRule.Completes (r : ConfiguredRule) : Prop :=
  ∃ h, r.handlers document config = .ok h ∧
    ∀ n ∈ Document.nodes document.text, ∃ made, h.onNode n = .ok made

/-- What a rule reports when it is set up. -/
def ConfiguredRule.reportsAtSetup (r : ConfiguredRule) : List Report :=
  (r.handlers document config).toOption.elim [] (·.reports)

/-- What a rule reports at a node. -/
def ConfiguredRule.reportsAt (r : ConfiguredRule) (n : TextNode) : List Report :=
  (r.handlers document config).toOption.elim [] (·.seen n)

/-- **The order of the reports**: first those of the setup, rule after rule; then, node after node,
those that the rules make there, rule after rule. -/
def Lint.reportsInOrder (rules : List ConfiguredRule) : List Report :=
  rules.flatMap (·.reportsAtSetup document config) ++
    (Document.nodes document.text).flatMap fun n => rules.flatMap (·.reportsAt document config n)

end

/-- A rule whose severity is read is set up in the context with that severity. -/
theorem ConfiguredRule.handlers_eq {r : ConfiguredRule} {severity : Severity}
    (h : Severity.ofConfig r.config = .ok severity) (document : Document) (config : Value) :
    r.handlers document config =
      r.rule ⟨r.name, document, config, severity⟩ (ruleOptions r.config) := by
  rw [handlers, Context.ofConfig, h]
  rfl

/-- A rule that is set up has a severity, and is set up in the context with it. -/
theorem ConfiguredRule.exists_severity_of_handlers {r : ConfiguredRule} {document : Document}
    {config : Value} {h : Handlers} (hr : r.handlers document config = .ok h) :
    ∃ severity, Severity.ofConfig r.config = .ok severity ∧
      r.rule ⟨r.name, document, config, severity⟩ (ruleOptions r.config) = .ok h := by
  cases hseverity : Severity.ofConfig r.config with
  | ok severity => exact ⟨severity, rfl, (handlers_eq hseverity document config).symm.trans hr⟩
  | error e =>
    rw [handlers, Context.ofConfig, hseverity] at hr
    cases hr

namespace Lint

variable {document : Document} {config : Value}

theorem setUp_eq_ok_iff : ∀ {rules : List ConfiguredRule} {first : List Report}
    {dispatch : List Handlers}, setUp document config rules = .ok (first, dispatch) ↔
      List.Forall₂ (fun r h => r.handlers document config = .ok h) rules dispatch ∧
        first = dispatch.flatMap (·.reports)
  | [], first, dispatch => by
      constructor
      · rintro ⟨⟩
        exact ⟨.nil, rfl⟩
      · rintro ⟨h, rfl⟩
        cases h
        rfl
  | r :: rules, first, dispatch => by
      rw [setUp]
      constructor
      · intro h
        obtain ⟨context, hcontext, h⟩ := bind_eq_ok_iff.mp h
        obtain ⟨handlers, hhandlers, h⟩ := bind_eq_ok_iff.mp h
        obtain ⟨⟨more, rest⟩, hrest, h⟩ := bind_eq_ok_iff.mp h
        cases h
        obtain ⟨hall, rfl⟩ := setUp_eq_ok_iff.mp hrest
        exact ⟨.cons (bind_eq_ok_iff.mpr ⟨context, hcontext, hhandlers⟩) hall, rfl⟩
      · rintro ⟨h, rfl⟩
        cases h with
        | @cons _ handlers _ rest hr hall =>
          obtain ⟨context, hcontext, hhandlers⟩ := bind_eq_ok_iff.mp hr
          have hrest := setUp_eq_ok_iff.mpr ⟨hall, rfl⟩
          rw [hcontext]
          refine bind_eq_ok_iff.mpr ⟨context, rfl, bind_eq_ok_iff.mpr ⟨handlers, hhandlers, ?_⟩⟩
          exact bind_eq_ok_iff.mpr ⟨_, hrest, rfl⟩

theorem atNode_eq_ok_iff {n : TextNode} : ∀ {dispatch : List Handlers} {made : List Report},
    atNode n dispatch = .ok made ↔
      (∀ h ∈ dispatch, ∃ own, h.onNode n = .ok own) ∧ made = dispatch.flatMap (·.seen n)
  | [], made => by simp [atNode, eq_comm]
  | h :: dispatch, made => by
      rw [atNode]
      constructor
      · intro hmade
        obtain ⟨own, hown, hmade⟩ := bind_eq_ok_iff.mp hmade
        obtain ⟨rest, hrest, hmade⟩ := bind_eq_ok_iff.mp hmade
        cases hmade
        obtain ⟨hall, rfl⟩ := atNode_eq_ok_iff.mp hrest
        refine ⟨List.forall_mem_cons.mpr ⟨⟨own, hown⟩, hall⟩, ?_⟩
        rw [List.flatMap_cons, Handlers.seen, hown]
        rfl
      · rintro ⟨hall, rfl⟩
        obtain ⟨⟨own, hown⟩, hall⟩ := List.forall_mem_cons.mp hall
        have hrest := atNode_eq_ok_iff.mpr ⟨hall, rfl⟩
        refine bind_eq_ok_iff.mpr ⟨own, hown, bind_eq_ok_iff.mpr ⟨_, hrest, ?_⟩⟩
        rw [List.flatMap_cons, Handlers.seen, hown]
        rfl

theorem atNodes_eq_ok_iff {dispatch : List Handlers} : ∀ {ns : List TextNode} {made : List Report},
    atNodes dispatch ns = .ok made ↔
      (∀ n ∈ ns, ∀ h ∈ dispatch, ∃ own, h.onNode n = .ok own) ∧
        made = ns.flatMap fun n => dispatch.flatMap (·.seen n)
  | [], made => by simp [atNodes, eq_comm]
  | n :: ns, made => by
      rw [atNodes]
      constructor
      · intro hmade
        obtain ⟨first, hfirst, hmade⟩ := bind_eq_ok_iff.mp hmade
        obtain ⟨rest, hrest, hmade⟩ := bind_eq_ok_iff.mp hmade
        cases hmade
        obtain ⟨hn, rfl⟩ := atNode_eq_ok_iff.mp hfirst
        obtain ⟨hns, rfl⟩ := atNodes_eq_ok_iff.mp hrest
        exact ⟨List.forall_mem_cons.mpr ⟨hn, hns⟩, rfl⟩
      · rintro ⟨hall, rfl⟩
        obtain ⟨hn, hns⟩ := List.forall_mem_cons.mp hall
        exact bind_eq_ok_iff.mpr ⟨_, atNode_eq_ok_iff.mpr ⟨hn, rfl⟩,
          bind_eq_ok_iff.mpr ⟨_, atNodes_eq_ok_iff.mpr ⟨hns, rfl⟩, rfl⟩⟩

/-- What the handlers of rules report is what the rules report by themselves. -/
theorem reportsInOrder_eq_of_forall₂ {rules : List ConfiguredRule} {dispatch : List Handlers}
    (h : List.Forall₂ (fun r h => r.handlers document config = .ok h) rules dispatch) :
    reportsInOrder document config rules = dispatch.flatMap (·.reports) ++
      (Document.nodes document.text).flatMap fun n => dispatch.flatMap (·.seen n) := by
  have hsetup : rules.flatMap (·.reportsAtSetup document config) = dispatch.flatMap (·.reports) :=
    flatMap_eq_of_forall₂ h fun r h hr => by
      rw [ConfiguredRule.reportsAtSetup, hr]
      rfl
  have hseen : ∀ n, rules.flatMap (·.reportsAt document config n) = dispatch.flatMap (·.seen n) :=
    fun n => flatMap_eq_of_forall₂ h fun r h hr => by
      rw [ConfiguredRule.reportsAt, hr]
      rfl
  simp only [reportsInOrder, hsetup, hseen]

/-- **A run has reports exactly if each rule completes**, and then it has them in their order. -/
theorem reports_eq_ok_iff {rules : List ConfiguredRule} {made : List Report} :
    reports document config rules = .ok made ↔
      (∀ r ∈ rules, r.Completes document config) ∧ made = reportsInOrder document config rules := by
  constructor
  · intro h
    obtain ⟨⟨first, dispatch⟩, hfirst, h⟩ := bind_eq_ok_iff.mp h
    obtain ⟨rest, hrest, h⟩ := bind_eq_ok_iff.mp h
    cases h
    obtain ⟨hall, rfl⟩ := setUp_eq_ok_iff.mp hfirst
    obtain ⟨hnodes, rfl⟩ := atNodes_eq_ok_iff.mp hrest
    refine ⟨fun r hr => ?_, (reportsInOrder_eq_of_forall₂ hall).symm⟩
    obtain ⟨handlers, hmem, hhandlers⟩ := forall₂_left hall r hr
    exact ⟨handlers, hhandlers, fun n hn => hnodes n hn handlers hmem⟩
  · rintro ⟨hall, rfl⟩
    obtain ⟨dispatch, hdispatch⟩ := exists_forall₂ fun r hr => (hall r hr).imp fun _ h => h.1
    have hnodes : ∀ n ∈ Document.nodes document.text, ∀ h ∈ dispatch, ∃ own, h.onNode n = .ok own :=
      fun n hn handlers hmem => by
        obtain ⟨r, hr, hhandlers⟩ := forall₂_right hdispatch handlers hmem
        obtain ⟨handlers', hhandlers', hown⟩ := hall r hr
        obtain rfl := Except.ok.inj (hhandlers.symm.trans hhandlers')
        exact hown n hn
    rw [reportsInOrder_eq_of_forall₂ hdispatch]
    exact bind_eq_ok_iff.mpr ⟨_, setUp_eq_ok_iff.mpr ⟨hdispatch, rfl⟩,
      bind_eq_ok_iff.mpr ⟨_, atNodes_eq_ok_iff.mpr ⟨hnodes, rfl⟩, rfl⟩⟩

end Lint

end ProseLinter
