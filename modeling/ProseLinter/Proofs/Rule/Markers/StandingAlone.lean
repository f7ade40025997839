import ProseLinter.Proofs.Rule.Markers.Boundaries

/-!
# Proofs/Rule/Markers/StandingAlone — a marker that stands alone

A marker may be any text, and the search for it is one for the places where it stands between word
boundaries.  A marker that stands alone, with blanks around it, is not always between boundaries.
It is if it starts and ends with word characters (`IsAlone.isBounded_iff`), and then it is found
right there (`mem_occurrences_of_alone`); `run_single` tells all of a run in these terms, and
`run_single_overlooked` is a marker that is not found.
-/

namespace ProseLinter

/-- The code points of blanks. -/
def Text.blankCodes : List ℕ :=
  List.range' 9 5 ++ List.range' 28 5 ++ [0x85, 0xA0, 0x1680] ++ List.range' 0x2000 11 ++
    [0x2028, 0x2029, 0x202F, 0x205F, 0x3000]

theorem Text.toNat_mem_blankCodes {c : Char} (h : isBlank c = true) : c.toNat ∈ blankCodes := by
  simp only [isBlank, Bool.or_eq_true, Bool.and_eq_true, decide_eq_true_eq, beq_iff_eq] at h
  simp only [blankCodes, List.mem_append, List.mem_range'_1, List.mem_cons, List.not_mem_nil]
  omega

/-- **No blank is a word character.** -/
theorem Text.isWord_of_isBlank {c : Char} (h : isBlank c = true) : isWord c = false := by
  have hcodes : ∀ n ∈ blankCodes, isWord (Char.ofNat n) = false := by decide +kernel
  rw [← Char.ofNat_toNat c]
  exact hcodes _ (toNat_mem_blankCodes h)

namespace Markers

variable {before : Option Char} {cs w : List Char} {k n : ℕ} {document : Document}
  {config ruleConfig : Value} {name : String} {severity : Severity}

/-! ## Alone -/

/-- Whether there is a blank, or nothing at all. -/
def isBlankAt (c : Option Char) : Bool := (c.map Text.isBlank).getD true

/-- **Alone**: on both sides of a text there are blanks, or it ends there. -/
def IsAlone (left right : Option Char) : Prop := isBlankAt left = true ∧ isBlankAt right = true

instance (left right : Option Char) : Decidable (IsAlone left right) :=
  inferInstanceAs (Decidable (_ ∧ _))

theorem isWordAt_of_isBlankAt {c : Option Char} (h : isBlankAt c = true) : isWordAt c = false := by
  cases c with
  | none => rfl
  | some c => exact Text.isWord_of_isBlank h

/-- **A text that stands alone is between boundaries exactly if it starts and ends with word
characters.** -/
theorem IsAlone.isBounded_iff {left right : Option Char} (h : IsAlone left right) :
    IsBounded w left right ↔ isWordAt w.head? = true ∧ isWordAt w.getLast? = true := by
  rw [IsBounded, isBoundary, isBoundary, isWordAt_of_isBlankAt h.1, isWordAt_of_isBlankAt h.2]
  simp

/-- What an occurrence uses up ends before a text further back that stands alone. -/
theorem le_of_extent? (hblank : ∀ c ∈ w, Text.isBlank c = false)
    (h : extent? before cs w = some n) (hk : 0 < k) {w' : List Char}
    (halone : StandsAt IsAlone before cs k w') : n ≤ k := by
  obtain ⟨u, v, rfl, rfl, hleft, -⟩ := halone
  by_contra hlt
  have hne : u ≠ [] := List.ne_nil_of_length_pos hk
  rw [lastOr, List.getLast?_eq_some_getLast hne] at hleft
  -- the blank before it would be among the characters that are used up
  have hused : u.getLast hne ∈ (u ++ w' ++ v).take n := by
    rw [List.append_assoc, List.take_append, List.take_of_length_le (by omega)]
    exact List.mem_append_left _ (List.getLast_mem hne)
  have hnot : Text.isBlank (u.getLast hne) = false := by
    rcases take_of_extent? h with htake | htake <;> rw [htake] at hused
    · exact hblank _ hused
    · rcases List.mem_append.mp hused with hused | hused
      · exact hblank _ hused
      · rw [List.mem_singleton.mp hused]
        rfl
  exact Bool.false_ne_true (hnot.symm.trans hleft)

/-! ## The search for one marker -/

/-- **A marker that stands alone is found where it stands**, if it starts and ends with word
characters: no other occurrence reaches over the blank before it. -/
theorem mem_occurrences_of_alone (hw : w ≠ []) (hblank : ∀ c ∈ w, Text.isBlank c = false)
    (hends : isWordAt w.head? = true ∧ isWordAt w.getLast? = true) :
    ∀ {cs : List Char} {i skip k : ℕ} {before : Option Char}, StandsAt IsAlone before cs k w →
      skip ≤ k → (i + k, w) ∈ occurrences [w] i skip before cs
  | [], i, skip, k, before, h, _ => absurd h (not_standsAt_nil hw)
  | c :: cs, i, skip + 1, k + 1, before, h, hle => by
      rw [occurrences, Nat.add_comm k, ← Nat.add_assoc]
      exact mem_occurrences_of_alone hw hblank hends (standsAt_succ_iff.mp h) (by omega)
  | c :: cs, i, 0, 0, before, h, _ => by
      have hbounded : StandsAt (IsBounded w) before (c :: cs) 0 w := by
        obtain ⟨u, v, hcs, hu, halone⟩ := h
        exact ⟨u, v, hcs, hu, halone.isBounded_iff.mpr hends⟩
      rcases occurrences_step (List.forall_mem_singleton.mpr hw) i before c cs with
        ⟨v, hv, -, skip, -, hstep⟩ | ⟨hnone, -⟩
      · obtain rfl := List.mem_singleton.mp hv
        rw [hstep]
        exact List.mem_cons_self
      · exact absurd hbounded (hnone w (List.mem_singleton.mpr rfl))
  | c :: cs, i, 0, k + 1, before, h, _ => by
      have hlater : ∀ {skip}, skip ≤ k → (i + (k + 1), w) ∈
          occurrences [w] (i + 1) skip (some c) cs := fun hle => by
        rw [Nat.add_comm k, ← Nat.add_assoc]
        exact mem_occurrences_of_alone hw hblank hends (standsAt_succ_iff.mp h) hle
      rcases occurrences_step (List.forall_mem_singleton.mpr hw) i before c cs with
        ⟨v, hv, -, skip, hextent, hstep⟩ | ⟨-, hstep⟩
      · obtain rfl := List.mem_singleton.mp hv
        have hle := le_of_extent? hblank hextent k.succ_pos h
        rw [hstep]
        exact List.mem_cons_of_mem _ (hlater (by omega))
      · rw [hstep]
        exact hlater (Nat.zero_le k)

/-! ## The messages of a run -/

/-- **The messages on a line** are those on the occurrences in its node. -/
theorem exists_mem_flatMap_messageOn_iff {words : List (List Char)} {text : List Char}
    {n : TextNode} (hn : n ∈ (Document.nodes text).tail) {p : LintMessage → Prop} :
    (∃ m ∈ (Document.nodes text).tail.flatMap fun n =>
        (occurrencesIn words n).map (messageOn name severity n), m.line = n.line ∧ p m) ↔
      ∃ hit ∈ occurrencesIn words n, p (messageOn name severity n hit) := by
  constructor
  · rintro ⟨m, hm, hline, hp⟩
    obtain ⟨n', hn', hm⟩ := List.mem_flatMap.mp hm
    obtain ⟨hit, hhit, rfl⟩ := List.mem_map.mp hm
    obtain rfl : n' = n := Document.eq_of_line_eq hn' hn hline
    exact ⟨hit, hhit, hp⟩
  · rintro ⟨hit, hhit, hp⟩
    exact ⟨_, List.mem_flatMap.mpr ⟨n, hn, List.mem_map_of_mem hhit⟩, rfl, hp⟩

/-- **A marker that stands alone.**  Let the rule be configured with one marker, any text without
blanks.  A run of the rule by itself returns messages; there is one on a line exactly if the marker
stands there between word boundaries; and where the marker stands alone in the line, it is what a
message is about exactly if it starts and ends with word characters. -/
theorem run_single (document : Document) (config : Value) (name : String)
    (hseverity : Severity.ofConfig ruleConfig = .ok severity) (hoff : severity ≠ .off)
    (hconfigured : wordsOf (ruleOptions ruleConfig) = .ok [w]) (hw : w ≠ [])
    (hblank : ∀ c ∈ w, Text.isBlank c = false) :
    ∃ messages, Lint.run document config [configured name ruleConfig] = .ok messages ∧
      ∀ n ∈ Document.nodes document.text, n.kind = Document.lineKind →
        ((∃ m ∈ messages, m.line = n.line) ↔ ∃ i, StandsAt (IsBounded w) none n.raw i w) ∧
        ∀ i, StandsAt IsAlone none n.raw i w →
          ((∃ m ∈ messages, m.line = n.line ∧ m.column = i + 1) ↔
            isWordAt w.head? = true ∧ isWordAt w.getLast? = true) := by
  refine ⟨_, run_eq hseverity hconfigured hoff, fun n hn hkind => ?_⟩
  have hline : n ∈ (Document.nodes document.text).tail := by
    rw [Document.tail_nodes_eq_filter]
    exact List.mem_filter.mpr ⟨hn, decide_eq_true hkind⟩
  refine ⟨?_, fun i halone => ?_⟩
  · have hsome : occurrences [w] 0 0 none n.raw ≠ [] ↔
        ∃ i, StandsAt (IsBounded w) none n.raw i w := by
      rw [occurrences_ne_nil_iff (List.forall_mem_singleton.mpr hw)]
      simp only [List.mem_singleton, exists_eq_left]
    rw [← hsome, ne_eq, List.eq_nil_iff_forall_not_mem, not_forall_not]
    change _ ↔ ∃ hit, hit ∈ occurrencesIn [w] n
    simpa only [and_true] using exists_mem_flatMap_messageOn_iff hline (p := fun _ => True)
  · rw [exists_mem_flatMap_messageOn_iff hline]
    constructor
    · rintro ⟨hit, hhit, hcolumn⟩
      obtain ⟨k, v, hv, rfl, hbounded⟩ :=
        exists_standsAt_of_mem_occurrences (List.forall_mem_singleton.mpr hw) hhit
      obtain rfl := List.mem_singleton.mp hv
      obtain rfl : k = i := by
        change ((0 + k : ℕ) + 1 : ℤ) = i + 1 at hcolumn
        omega
      obtain ⟨left, right, halone, hbounded⟩ := halone.exists_and hbounded
      exact halone.isBounded_iff.mp hbounded
    · intro hends
      have hmem := mem_occurrences_of_alone (i := 0) hw hblank hends halone (Nat.zero_le i)
      rw [Nat.zero_add] at hmem
      exact ⟨(i, w), hmem, rfl⟩

/-- A marker that starts and ends with word characters, at the end of a line: another word on the
line starts like it. -/
theorem run_single_hyphened :
    let document : Document := ⟨"to do\nnot re-done: re-do".toList, none⟩
    let n : TextNode := ⟨Document.lineKind, 6, 24, "not re-done: re-do".toList, 2⟩
    let w := "re-do".toList
    let ruleConfig := Value.table [("words", .list ([w].map .ofChars))]
    Severity.ofConfig ruleConfig = .ok .error ∧ Severity.error ≠ .off ∧
      wordsOf (ruleOptions ruleConfig) = .ok [w] ∧ w ≠ [] ∧ (∀ c ∈ w, Text.isBlank c = false) ∧
      n ∈ Document.nodes document.text ∧ n.kind = Document.lineKind ∧
      StandsAt IsAlone none n.raw 13 w ∧
      ∃ messages, Lint.run document .none [configured "marks" ruleConfig] = .ok messages ∧
        ∃ m ∈ messages, m.line = 2 ∧ m.column = 14 := by
  intro document n w ruleConfig
  have hoff : Severity.error ≠ .off := by decide
  have hconfigured := wordsOf_configured [w]
  have hw : w ≠ [] := by decide
  have hblank : ∀ c ∈ w, Text.isBlank c = false := by simp [w, Text.isBlank]
  have hn : n ∈ Document.nodes document.text := by decide +kernel
  have halone : StandsAt IsAlone none n.raw 13 w :=
    ⟨"not re-done: ".toList, [], by decide, by decide, by decide⟩
  obtain ⟨messages, hrun, hmessages⟩ :=
    run_single document .none "marks" (show Severity.ofConfig ruleConfig = .ok .error from rfl)
      hoff hconfigured hw hblank
  have hfound := ((hmessages n hn rfl).2 13 halone).mpr (by decide)
  exact ⟨rfl, hoff, hconfigured, hw, hblank, hn, rfl, halone, messages, hrun, hfound⟩

/-- **A marker that stands alone and is overlooked**: it ends with characters that are no word
characters, so behind it there is a word boundary only where a word follows. -/
theorem run_single_overlooked :
    let document : Document := ⟨"see c++ here".toList, none⟩
    let n : TextNode := ⟨Document.lineKind, 0, 12, document.text, 1⟩
    let w := "c++".toList
    let ruleConfig := Value.table [("words", .list ([w].map .ofChars))]
    Severity.ofConfig ruleConfig = .ok .error ∧ wordsOf (ruleOptions ruleConfig) = .ok [w] ∧
      w ≠ [] ∧ (∀ c ∈ w, Text.isBlank c = false) ∧
      n ∈ Document.nodes document.text ∧ n.kind = Document.lineKind ∧
      StandsAt IsAlone none n.raw 4 w ∧
      Lint.run document .none [configured "marks" ruleConfig] = .ok [] := by
  intro document n w ruleConfig
  have hconfigured := wordsOf_configured [w]
  have hnodes : (Document.nodes document.text).tail = [n] := by decide +kernel
  have hn : n ∈ Document.nodes document.text := List.mem_of_mem_tail (by rw [hnodes]; simp)
  have hnone : occurrencesIn [w] n = [] := by decide +kernel
  have hrun : Lint.run document .none [configured "marks" ruleConfig] = .ok [] := by
    rw [run_eq rfl hconfigured (by decide : Severity.error ≠ .off), hnodes, List.flatMap_singleton,
      hnone, List.map_nil]
  exact ⟨rfl, hconfigured, by decide, by simp [w, Text.isBlank], hn, rfl,
    ⟨"see ".toList, " here".toList, by decide, by decide, by decide⟩, hrun⟩

end Markers

end ProseLinter
