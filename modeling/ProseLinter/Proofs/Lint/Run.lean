import ProseLinter.Proofs.LineMap.Position
import ProseLinter.Proofs.Lint.Reports
import ProseLinter.Proofs.StableSort

/-!
# Proofs/Lint/Run — what a run returns

A run makes reports, drops those that are switched off, turns each of the others into a message and
sorts the messages.  Here each step is told by what it keeps: a message has the rule and severity of
its report and the place of its index (`messageFor_spec`), and the sort is stable
(`run_eq_ok_iff_stablySorted`).  Places are ordered as offsets are, so the messages stand in the
order of their offsets, clamped to the text: `run_eq_ok_iff`.
-/

namespace ProseLinter

namespace LintMessage

/-- Where a message is shown. -/
def place (m : LintMessage) : Position := ⟨m.line, m.column⟩

/-- Messages compare by place, then by rule. -/
def key (m : LintMessage) : (ℤ ×ₗ ℤ) ×ₗ String := toLex (m.place.key, m.ruleId)

theorem key_eq_iff {m : LintMessage} {p : Position} {rule : String} :
    m.key = toLex (p.key, rule) ↔ m.place = p ∧ m.ruleId = rule := by
  rw [key, toLex_inj, Prod.mk.injEq, Position.key, Position.key, toLex_inj, Prod.mk.injEq,
    ← Position.mk.injEq]

end LintMessage

namespace Lint

/-- The order of messages compares their keys. -/
theorem before_iff (a b : LintMessage) : before a b = true ↔ a.key ≤ b.key := by
  have hplace : ∀ {l l' c c' : ℤ}, toLex (l, c) < toLex (l', c') ↔ l < l' ∨ l = l' ∧ c < c' :=
    Prod.Lex.toLex_lt_toLex
  rw [LintMessage.key, LintMessage.key, Prod.Lex.toLex_le_toLex]
  simp only [Position.key, LintMessage.place, hplace, toLex_inj, Prod.mk.injEq]
  unfold before
  by_cases hl : a.line = b.line
  · by_cases hc : a.column = b.column
    · rw [if_neg (not_not.mpr hl), if_neg (not_not.mpr hc), decide_eq_true_eq, not_lt]
      simp [hl, hc]
    · rw [if_neg (not_not.mpr hl), if_pos hc, decide_eq_true_eq]
      simp [hl, hc]
  · rw [if_pos hl, decide_eq_true_eq]
    simp [hl]

/-! ## Messages of reports -/

/-- **What a message keeps of its report**: the rule and the severity; its place is that of its
index. -/
theorem messageFor_spec {lines : LineMap} {r : Report} {m : LintMessage}
    (h : messageFor lines r = .ok m) :
    m.ruleId = r.rule ∧ m.severity = r.severity ∧ m.place = lines.position m.index := by
  obtain ⟨start, -, h⟩ := bind_eq_ok_iff.mp h
  obtain ⟨message, -, h⟩ := bind_eq_ok_iff.mp h
  obtain ⟨index, -, h⟩ := bind_eq_ok_iff.mp h
  obtain ⟨fix, -, h⟩ := bind_eq_ok_iff.mp h
  cases h
  exact ⟨rfl, rfl, rfl⟩

/-- The reports that are not switched off become messages, each its own. -/
theorem messagesFor_eq_ok_iff {lines : LineMap} : ∀ {made : List Report} {ms : List LintMessage},
    messagesFor lines made = .ok ms ↔
      List.Forall₂ (fun r m => messageFor lines r = .ok m) (made.filter (·.severity ≠ .off)) ms
  | [], ms => by
      rw [messagesFor, List.filter_nil, List.forall₂_nil_left_iff]
      exact ⟨fun h => by cases h; rfl, fun h => by rw [h]⟩
  | r :: made, ms => by
      rw [messagesFor]
      by_cases hr : r.severity = .off
      · rw [if_pos hr, List.filter_cons_of_neg (by simp [hr]), messagesFor_eq_ok_iff]
      · rw [if_neg hr, List.filter_cons_of_pos (by simp [hr]), List.forall₂_cons_left_iff]
        constructor
        · intro h
          obtain ⟨m, hm, h⟩ := bind_eq_ok_iff.mp h
          obtain ⟨rest, hrest, h⟩ := bind_eq_ok_iff.mp h
          cases h
          exact ⟨m, rest, hm, messagesFor_eq_ok_iff.mp hrest, rfl⟩
        · rintro ⟨m, rest, hm, hrest, rfl⟩
          exact bind_eq_ok_iff.mpr ⟨m, hm,
            bind_eq_ok_iff.mpr ⟨rest, messagesFor_eq_ok_iff.mpr hrest, rfl⟩⟩

/-! ## The result of a run -/

variable {document : Document} {config : Value} {rules : List ConfiguredRule}
  {messages : List LintMessage}

/-- **The messages placed** for the reports of a run that are not switched off, in the order of the
reports. -/
def Places (document : Document) (config : Value) (rules : List ConfiguredRule)
    (placed : List LintMessage) : Prop :=
  List.Forall₂ (fun r m => messageFor (.ofText document.text) r = .ok m)
    ((reportsInOrder document config rules).filter (·.severity ≠ .off)) placed

/-- **A run returns the stable sort of its messages**, if the rules complete and each message can be
placed. -/
theorem run_eq_ok_iff_stablySorted :
    run document config rules = .ok messages ↔
      (∀ r ∈ rules, r.Completes document config) ∧
        ∃ placed, Places document config rules placed ∧
          StablySorted LintMessage.key placed messages := by
  constructor
  · intro h
    obtain ⟨made, hmade, h⟩ := bind_eq_ok_iff.mp h
    obtain ⟨placed, hplaced, h⟩ := bind_eq_ok_iff.mp h
    cases h
    obtain ⟨hall, rfl⟩ := reports_eq_ok_iff.mp hmade
    exact ⟨hall, placed, messagesFor_eq_ok_iff.mp hplaced, stablySorted_mergeSort before_iff placed⟩
  · rintro ⟨hall, placed, hplaced, hsorted⟩
    rw [(stablySorted_iff_eq_mergeSort before_iff).mp hsorted]
    exact bind_eq_ok_iff.mpr ⟨_, reports_eq_ok_iff.mpr ⟨hall, rfl⟩,
      bind_eq_ok_iff.mpr ⟨placed, messagesFor_eq_ok_iff.mpr hplaced, rfl⟩⟩

/-- A rule that returns messages by itself has a severity, and is set up in the context with it. -/
theorem exists_severity_of_run {r : ConfiguredRule}
    (h : run document config [r] = .ok messages) :
    ∃ severity handlers, Severity.ofConfig r.config = .ok severity ∧
      r.rule ⟨r.name, document, config, severity⟩ (ruleOptions r.config) = .ok handlers := by
  obtain ⟨hall, -⟩ := run_eq_ok_iff_stablySorted.mp h
  obtain ⟨handlers, hhandlers, -⟩ := hall r List.mem_cons_self
  obtain ⟨severity, hseverity, hrule⟩ := ConfiguredRule.exists_severity_of_handlers hhandlers
  exact ⟨severity, handlers, hseverity, hrule⟩

/-- The offset of a message, clamped to the text. -/
def offsetIn (text : List Char) (m : LintMessage) : ℤ := max 0 (min m.index text.length)

/-- **Messages as they are shown**: those that were placed, all of them and each once, none of them
switched off, by their offsets in the text and then by their rules; of one rule at one place, in the
order in which they were placed. -/
structure Arranged (text : List Char) (placed messages : List LintMessage) : Prop where
  perm : messages.Perm placed
  not_off : ∀ m ∈ messages, m.severity ≠ .off
  pairwise : messages.Pairwise fun a b =>
    offsetIn text a < offsetIn text b ∨ offsetIn text a = offsetIn text b ∧ a.ruleId ≤ b.ruleId
  stable : ∀ (p : Position) (rule : String),
    messages.filter (fun m => m.place = p ∧ m.ruleId = rule) =
      placed.filter fun m => m.place = p ∧ m.ruleId = rule

/-- A message that is placed is not switched off, and its place is that of its index. -/
theorem Places.spec {placed : List LintMessage} (h : Places document config rules placed)
    {m : LintMessage} (hm : m ∈ placed) :
    m.severity ≠ .off ∧ m.place = (LineMap.ofText document.text).position m.index := by
  obtain ⟨r, hr, hrm⟩ := forall₂_right h m hm
  obtain ⟨-, hseverity, hplace⟩ := messageFor_spec hrm
  rw [hseverity]
  exact ⟨of_decide_eq_true (List.mem_filter.mp hr).2, hplace⟩

/-- **The messages of a run stand in the text.** -/
theorem inText_of_mem_run (h : run document config rules = .ok messages) {m : LintMessage}
    (hm : m ∈ messages) : m.place.InText document.text := by
  obtain ⟨-, placed, hplaced, hsorted⟩ := run_eq_ok_iff_stablySorted.mp h
  rw [(hplaced.spec (hsorted.perm.mem_iff.mp hm)).2]
  exact Document.inText_position document.text m.index

/-- Keys of messages at the places of their indices compare as the offsets do, and then the rules:
positions are ordered as the clamped offsets are. -/
theorem key_le_iff {text : List Char} {a b : LintMessage}
    (ha : a.place = (LineMap.ofText text).position a.index)
    (hb : b.place = (LineMap.ofText text).position b.index) :
    a.key ≤ b.key ↔ offsetIn text a < offsetIn text b ∨
      offsetIn text a = offsetIn text b ∧ a.ruleId ≤ b.ruleId := by
  have hm := LineMap.ascending_ofText text
  have hclamp : ∀ m : LintMessage, offsetIn text m = (LineMap.ofText text).clamp m.index :=
    fun m => by
      rw [offsetIn, LineMap.clamp, LineMap.length_ofText]
      omega
  rw [LintMessage.key, LintMessage.key, Prod.Lex.toLex_le_toLex, ha, hb,
    LineMap.key_position_lt_iff hm, LineMap.key_position_eq_iff hm, hclamp, hclamp,
    Int.ofNat_lt, Int.ofNat_inj]

/-- **To be arranged is to be sorted stably by the keys.** -/
theorem Places.arranged_iff {placed : List LintMessage}
    (h : Places document config rules placed) :
    Arranged document.text placed messages ↔ StablySorted LintMessage.key placed messages := by
  have hsorted : messages.Perm placed → (messages.Pairwise (fun a b => a.key ≤ b.key) ↔
      messages.Pairwise fun a b => offsetIn document.text a < offsetIn document.text b ∨
        offsetIn document.text a = offsetIn document.text b ∧ a.ruleId ≤ b.ruleId) := fun hperm =>
    List.Pairwise.iff_of_mem fun ha hb =>
      key_le_iff (h.spec (hperm.mem_iff.mp ha)).2 (h.spec (hperm.mem_iff.mp hb)).2
  have hfibre : ∀ (l : List LintMessage) (p : Position) (rule : String),
      l.filter (·.key = toLex (p.key, rule)) = l.filter fun m => m.place = p ∧ m.ruleId = rule :=
    fun l p rule => List.filter_congr fun m _ => decide_eq_decide.mpr LintMessage.key_eq_iff
  constructor
  · rintro ⟨hperm, -, hpairwise, hstable⟩
    refine ⟨(hsorted hperm).mpr hpairwise, fun k => ?_⟩
    -- every key is that of a place and a rule
    obtain ⟨p, rule, rfl⟩ : ∃ (p : Position) (rule : String), k = toLex (p.key, rule) :=
      ⟨⟨(ofLex (ofLex k).1).1, (ofLex (ofLex k).1).2⟩, (ofLex k).2, rfl⟩
    rw [hfibre, hfibre, hstable]
  · intro hs
    refine ⟨hs.perm, fun m hm => (h.spec (hs.perm.mem_iff.mp hm)).1,
      (hsorted hs.perm).mp hs.pairwise, fun p rule => ?_⟩
    rw [← hfibre, ← hfibre, hs.fibre]

/-- **A run returns messages exactly if every rule completes and every report that is not switched
off can be placed**, and then it returns the messages so placed as they are shown. -/
theorem run_eq_ok_iff :
    run document config rules = .ok messages ↔
      (∀ r ∈ rules, r.Completes document config) ∧
        ∃ placed, Places document config rules placed ∧
          Arranged document.text placed messages := by
  rw [run_eq_ok_iff_stablySorted]
  exact and_congr_right fun _ => exists_congr fun placed =>
    and_congr_right fun h => h.arranged_iff.symm

end Lint

end ProseLinter
