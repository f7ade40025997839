import ProseLinter.Proofs.Rule.Markers.Boundaries

/-!
# Proofs/Rule/Markers/WholeWords — markers that are words are found as whole words

A marker of word characters stands between word boundaries exactly where it is a **maximal run** of
word characters (`isRun_iff_isBounded`).  No other run starts before such a run has ended, nor right
where it ends (`IsRun.length_lt`).  So no two markers compete for a place, and what the search uses
up, a colon after the marker too, hides no other run: `mem_occurrences_iff`.
-/

namespace ProseLinter.Markers

variable {words : List (List Char)} {before : Option Char} {cs v w w' : List Char} {c : Char}
  {i k : ℕ}

/-! ## Maximal runs of word characters -/

/-- **A word**: word characters, one at least. -/
def IsWord (w : List Char) : Prop := w ≠ [] ∧ ∀ c ∈ w, Text.isWord c = true

instance : DecidablePred IsWord := fun w =>
  decidable_of_iff (w ≠ [] ∧ w.all Text.isWord = true) (and_congr_right' List.all_eq_true)

/-- **A maximal run of word characters** in a text that follows the character `before`: the word `w`
stands at offset `i`, and no word character stands right before it or right after it. -/
structure IsRun (before : Option Char) (cs : List Char) (i : ℕ) (w : List Char) : Prop where
  isWord : IsWord w
  maximal : ∃ u v, cs = u ++ w ++ v ∧ u.length = i ∧
    isWordAt (lastOr before u) = false ∧ isWordAt v.head? = false

/-- A word starts with a word character. -/
theorem IsWord.head (h : IsWord w) (v : List Char) : isWordAt (w ++ v).head? = true := by
  obtain ⟨c, u, rfl⟩ := List.exists_cons_of_ne_nil h.1
  exact h.2 c List.mem_cons_self

/-- A text ends in a word character, if its characters are word characters and there are some. -/
theorem isWordAt_lastOr (h : w ≠ []) (hword : ∀ c ∈ w, Text.isWord c = true)
    (before : Option Char) : isWordAt (lastOr before w) = true := by
  rw [lastOr, List.getLast?_eq_some_getLast h]
  exact hword _ (List.getLast_mem h)

/-- No word character on either side. -/
def IsApart (left right : Option Char) : Prop := isWordAt left = false ∧ isWordAt right = false

/-- A maximal run is a word that stands apart from word characters. -/
theorem isRun_iff_standsAt :
    IsRun before cs i w ↔ IsWord w ∧ StandsAt IsApart before cs i w :=
  ⟨fun h => ⟨h.isWord, h.maximal⟩, fun h => ⟨h.1, h.2⟩⟩

/-- A run at the front of a text. -/
theorem isRun_zero_iff : IsRun before cs 0 w ↔
    IsWord w ∧ isWordAt before = false ∧ ∃ v, cs = w ++ v ∧ isWordAt v.head? = false := by
  rw [isRun_iff_standsAt, standsAt_zero_iff]
  simp only [IsApart, and_left_comm (a := cs = _), exists_and_left]

/-- A run further back is a run in what follows the first character. -/
theorem isRun_succ_iff : IsRun before (c :: cs) (k + 1) w ↔ IsRun (some c) cs k w := by
  rw [isRun_iff_standsAt, isRun_iff_standsAt, standsAt_succ_iff]

theorem not_isRun_nil : ¬IsRun before [] k w := fun h =>
  not_standsAt_nil h.isWord.1 (isRun_iff_standsAt.mp h).2

namespace IsRun

/-- The run at the front of a text takes all word characters there. -/
theorem eq_takeWhile (h : IsRun before cs 0 w) : w = cs.takeWhile Text.isWord := by
  obtain ⟨hword, -, v, rfl, hafter⟩ := isRun_zero_iff.mp h
  have hv : v.takeWhile Text.isWord = [] := by
    cases v with
    | nil => rfl
    | cons d v => exact List.takeWhile_cons_of_neg (by simpa [isWordAt] using hafter)
  rw [List.takeWhile_append_of_pos hword.2, hv, List.append_nil]

/-- **After a run at the front the next one starts further back than the run ends.** -/
theorem length_lt (h : IsRun before cs 0 w) (h' : IsRun before cs k w') (hk : 0 < k) :
    w.length < k := by
  obtain ⟨hword, -, v, rfl, -⟩ := isRun_zero_iff.mp h
  obtain ⟨-, u, v', hcs, hu, hbefore, -⟩ := h'
  by_contra hle
  -- what precedes the other run would lie within the first one, and end in a word character
  have hbegins : u <+: w := by
    refine List.prefix_of_prefix_length_le ⟨w' ++ v', ?_⟩ (List.prefix_append w v) (by omega)
    rw [hcs, List.append_assoc]
  have hne : u ≠ [] := List.ne_nil_of_length_pos (by omega)
  have hlast := isWordAt_lastOr hne (fun c hc => hword.2 c (hbegins.subset hc)) before
  rw [hbefore] at hlast
  exact Bool.false_ne_true hlast

end IsRun

/-! ## The search -/

/-- **A word stands between boundaries exactly where it is a maximal run.** -/
theorem isRun_iff_isBounded (hw : IsWord w) :
    IsRun before cs k w ↔ StandsAt (IsBounded w) before cs k w := by
  have hhead : isWordAt w.head? = true := by simpa using hw.head []
  have hlast : isWordAt w.getLast? = true :=
    lastOr_of_ne_nil hw.1 none ▸ isWordAt_lastOr hw.1 hw.2 none
  have hbounded : ∀ left right, IsBounded w left right ↔ IsApart left right := fun left right => by
    rw [IsBounded, IsApart, isBoundary, isBoundary, hhead, hlast]
    cases isWordAt left <;> cases isWordAt right <;> simp
  rw [isRun_iff_standsAt, and_iff_right hw]
  simp only [StandsAt, hbounded]

/-- **One step of the search for words**: it goes on after a word, or at the next character. -/
theorem occurrences_step_run (hwords : ∀ w ∈ words, IsWord w) (i : ℕ) (before : Option Char)
    (c : Char) (cs : List Char) :
    (∃ w ∈ words, IsRun before (c :: cs) 0 w ∧ ∃ skip ≤ w.length,
      occurrences words i 0 before (c :: cs) =
        (i, w) :: occurrences words (i + 1) skip (some c) cs) ∨
    (∀ w ∈ words, ¬IsRun before (c :: cs) 0 w) ∧
      occurrences words i 0 before (c :: cs) = occurrences words (i + 1) 0 (some c) cs := by
  rcases occurrences_step (fun w hw => (hwords w hw).1) i before c cs with
    ⟨w, hw, hstands, skip, hextent, hstep⟩ | ⟨hnone, hstep⟩
  · have hle := (extent?_bounds hextent).2
    exact Or.inl ⟨w, hw, (isRun_iff_isBounded (hwords w hw)).mpr hstands, skip, by omega, hstep⟩
  · exact Or.inr ⟨fun w hw h => hnone w hw ((isRun_iff_isBounded (hwords w hw)).mp h), hstep⟩

/-- The words that are runs in a text: one at its front, or one further back. -/
theorem exists_run_cons_iff {hit : ℕ × List Char} :
    (∃ k, hit.1 = i + k ∧ IsRun before (c :: cs) k hit.2 ∧ hit.2 ∈ words) ↔
      (hit.1 = i ∧ IsRun before (c :: cs) 0 hit.2 ∧ hit.2 ∈ words) ∨
        ∃ k, hit.1 = i + 1 + k ∧ IsRun (some c) cs k hit.2 ∧ hit.2 ∈ words := by
  rw [← Nat.or_exists_add_one]
  refine or_congr Iff.rfl (exists_congr fun k => ?_)
  rw [isRun_succ_iff, Nat.add_right_comm, Nat.add_assoc]

/-- **The occurrences are the maximal runs that are among the words**, if no run starts in what has
been used up. -/
theorem mem_occurrences_iff (hwords : ∀ w ∈ words, IsWord w) :
    ∀ {cs : List Char} {i skip : ℕ} {before : Option Char} {hit : ℕ × List Char},
      (∀ k < skip, ∀ w, ¬IsRun before cs k w) →
      (hit ∈ occurrences words i skip before cs ↔
        ∃ k, hit.1 = i + k ∧ IsRun before cs k hit.2 ∧ hit.2 ∈ words)
  | [], i, skip, before, hit, _ => by
      rw [occurrences_nil fun w hw => (hwords w hw).1]
      simp [not_isRun_nil]
  | c :: cs, i, skip + 1, before, hit, hskip => by
      have hlater : ∀ k < skip, ∀ w, ¬IsRun (some c) cs k w := fun k hk w h =>
        hskip (k + 1) (Nat.succ_lt_succ hk) w (isRun_succ_iff.mpr h)
      rw [occurrences, mem_occurrences_iff hwords hlater, exists_run_cons_iff]
      exact (or_iff_right fun h => hskip 0 skip.succ_pos _ h.2.1).symm
  | c :: cs, i, 0, before, hit, _ => by
      rw [exists_run_cons_iff]
      rcases occurrences_step_run hwords i before c cs with
        ⟨w, hw, hrun, skip, hle, hstep⟩ | ⟨hnone, hstep⟩
      · -- what the run uses up ends before the next run starts
        have hlater : ∀ k < skip, ∀ w', ¬IsRun (some c) cs k w' := fun k hk w' h => by
          have := hrun.length_lt (isRun_succ_iff.mpr h) k.succ_pos
          omega
        have hfront : hit = (i, w) ↔
            hit.1 = i ∧ IsRun before (c :: cs) 0 hit.2 ∧ hit.2 ∈ words := by
          constructor
          · rintro rfl
            exact ⟨rfl, hrun, hw⟩
          · rintro ⟨hi, hrun', -⟩
            exact Prod.ext hi (hrun'.eq_takeWhile.trans hrun.eq_takeWhile.symm)
        rw [hstep, List.mem_cons, mem_occurrences_iff hwords hlater, hfront]
      · rw [hstep, mem_occurrences_iff hwords fun k hk => absurd hk (Nat.not_lt_zero k)]
        exact (or_iff_right fun h => hnone _ h.2.2 h.2.1).symm

/-- **Words are found at different offsets**, one after the other. -/
theorem pairwise_lt_occurrences (hwords : ∀ w ∈ words, IsWord w) :
    ∀ (i skip : ℕ) (before : Option Char) (cs : List Char),
      (occurrences words i skip before cs).Pairwise fun a b => a.1 < b.1
  | i, skip, before, [] => by
      rw [occurrences_nil fun w hw => (hwords w hw).1]
      exact .nil
  | i, skip + 1, before, c :: cs => pairwise_lt_occurrences hwords (i + 1) skip (some c) cs
  | i, 0, before, c :: cs => by
      rcases occurrences_step_run hwords i before c cs with ⟨w, -, -, skip, -, hstep⟩ | ⟨-, hstep⟩
      · rw [hstep]
        exact .cons (fun hit hhit => (occurrences_bounds hhit).1)
          (pairwise_lt_occurrences hwords (i + 1) skip (some c) cs)
      · rw [hstep]
        exact pairwise_lt_occurrences hwords (i + 1) 0 (some c) cs

/-! ## The messages of a run -/

/-- The occurrences of words in a line are its maximal runs that are among the words. -/
theorem mem_occurrencesIn_iff (hwords : ∀ w ∈ words, IsWord w) {n : TextNode} :
    (i, w) ∈ occurrencesIn words n ↔ IsRun none n.raw i w ∧ w ∈ words := by
  rw [occurrencesIn, mem_occurrences_iff hwords fun k hk => absurd hk (Nat.not_lt_zero k)]
  simp

/-- **The rule finds whole words.**  Let the rule be configured with words of word characters only,
in any order, some of them prefixes of others or given twice.  What it finds in a text are the
maximal runs of word characters in the lines that are equal to one of the words, each of them once,
in the order of the lines and from left to right.  A run of the rule by itself returns nothing if
the rule is switched off, and otherwise one message for each of them, which stands where the word
starts and quotes it and its line. -/
theorem run_wholeWords (document : Document) (config : Value) (name : String) {ruleConfig : Value}
    {severity : Severity} (hseverity : Severity.ofConfig ruleConfig = .ok severity)
    (hconfigured : wordsOf (ruleOptions ruleConfig) = .ok words) (hwords : ∀ w ∈ words, IsWord w) :
    ∃ found : List (TextNode × ℕ × List Char),
      (∀ n i w, (n, i, w) ∈ found ↔ (n ∈ Document.nodes document.text ∧
        n.kind = Document.lineKind) ∧ IsRun none n.raw i w ∧ w ∈ words) ∧
      (found.Pairwise fun a b => a.1.line < b.1.line ∨ a.1 = b.1 ∧ a.2.1 < b.2.1) ∧
      Lint.run document config [configured name ruleConfig] =
        .ok (if severity = .off then [] else found.map fun (n, i, w) =>
          ⟨name, .ofChars ("Found ".toList ++ w ++ ": '".toList ++ Text.strip Text.isBlank n.raw ++
            ['\'']), n.start + i, n.line, i + 1, severity, none⟩) := by
  refine ⟨(Document.nodes document.text).tail.flatMap fun n =>
    (occurrencesIn words n).map fun hit => (n, hit), fun n i w => ?_, ?_, ?_⟩
  · have hline : n ∈ (Document.nodes document.text).tail ↔
        n ∈ Document.nodes document.text ∧ n.kind = Document.lineKind := by
      rw [Document.tail_nodes_eq_filter, List.mem_filter, decide_eq_true_iff]
    rw [← hline, ← mem_occurrencesIn_iff hwords]
    simp
  · refine List.pairwise_flatMap.mpr ⟨fun n _ => List.pairwise_map.mpr
      ((pairwise_lt_occurrences hwords 0 0 none n.raw).imp fun h => Or.inr ⟨rfl, h⟩), ?_⟩
    refine (Document.pairwise_line_lineNodes document.text).imp fun {a b} hab x hx y hy => ?_
    obtain ⟨hit, -, rfl⟩ := List.mem_map.mp hx
    obtain ⟨hit', -, rfl⟩ := List.mem_map.mp hy
    exact Or.inl hab
  · by_cases hoff : severity = .off
    · rw [if_pos hoff, run_off (hoff ▸ hseverity) hconfigured]
    · rw [if_neg hoff, run_eq hseverity hconfigured hoff, List.map_flatMap]
      simp only [List.map_map]
      rfl

/-- A word that another one starts with, given twice: it is found before a colon and at the end of a
line, and neither of them within a longer run. -/
theorem run_wholeWords_nested :
    let document : Document := ⟨"TODOS: TO:TODO\nxTODO TO".toList, none⟩
    let words := ["TO", "TODO", "TO"].map String.toList
    let ruleConfig := Value.table [("words", .list (words.map .ofChars))]
    Severity.ofConfig ruleConfig = .ok .error ∧ wordsOf (ruleOptions ruleConfig) = .ok words ∧
      (∀ w ∈ words, IsWord w) ∧
      ∃ found : List (TextNode × ℕ × List Char),
        (∀ n i w, (n, i, w) ∈ found ↔ (n ∈ Document.nodes document.text ∧
          n.kind = Document.lineKind) ∧ IsRun none n.raw i w ∧ w ∈ words) ∧
        (found.map fun x => messageOn "marks" .error x.1 x.2) =
          [⟨"marks", .text "Found TO: 'TODOS: TO:TODO'", 7, 1, 8, .error, none⟩,
            ⟨"marks", .text "Found TODO: 'TODOS: TO:TODO'", 10, 1, 11, .error, none⟩,
            ⟨"marks", .text "Found TO: 'xTODO TO'", 21, 2, 7, .error, none⟩] := by
  intro document words ruleConfig
  have hseverity : Severity.ofConfig ruleConfig = .ok .error := rfl
  have hconfigured := wordsOf_configured words
  have hwords : ∀ w ∈ words, IsWord w := by decide +kernel
  obtain ⟨found, hfound, -, hrun⟩ :=
    run_wholeWords document .none "marks" hseverity hconfigured hwords
  refine ⟨hseverity, hconfigured, hwords, found, hfound, ?_⟩
  have hmessages := hrun.symm.trans (run_eq hseverity hconfigured (by decide))
  have hnodes : (Document.nodes document.text).tail =
      [⟨Document.lineKind, 0, 14, "TODOS: TO:TODO".toList, 1⟩,
        ⟨Document.lineKind, 15, 23, "xTODO TO".toList, 2⟩] := by decide +kernel
  have hfirst : occurrences words 0 0 none "TODOS: TO:TODO".toList =
      [(7, "TO".toList), (10, "TODO".toList)] := by decide +kernel
  have hsecond : occurrences words 0 0 none "xTODO TO".toList = [(6, "TO".toList)] := by
    decide +kernel
  refine (Except.ok.inj hmessages).trans ?_
  rw [hnodes, List.flatMap_cons, List.flatMap_singleton, occurrencesIn, occurrencesIn, hfirst,
    hsecond]
  rfl

end ProseLinter.Markers
