import ProseLinter.Proofs.Rule.OnLines
import ProseLinter.Rule.Markers

/-!
# Proofs/Rule/Markers — what the rule on markers reports

The rule looks at each line by itself, and what it reports there is settled by the occurrences of
its words in the line (`onLine_eq`).  The search goes through a line from the left, so the
occurrences come in the order of their offsets, and the messages of a run need no sorting: `run_eq`
lists them, line after line.
-/

namespace ProseLinter.Markers

variable {document : Document} {config ruleConfig : Value} {name : String} {severity : Severity}
  {words : List (List Char)} {text : List Char} {n : TextNode}

/-! ## The occurrences in a line -/

/-- Without words nothing is found. -/
theorem occurrences_of_no_words : ∀ (i skip : ℕ) (before : Option Char) (cs : List Char),
    occurrences [] i skip before cs = []
  | _, 0, _, [] => rfl
  | _, _ + 1, _, [] => rfl
  | i, 0, _, c :: cs => occurrences_of_no_words (i + 1) 0 (some c) cs
  | i, skip + 1, _, c :: cs => occurrences_of_no_words (i + 1) skip (some c) cs

/-- A word is found at the front of what is left… -/
theorem prefix_of_extent? {extent : ℕ} {before : Option Char} {cs w : List Char}
    (h : extent? before cs w = some extent) : w <+: cs := by
  unfold extent? at h
  split at h
  · next hfront => exact List.isPrefixOf_iff_prefix.mp (Bool.and_eq_true_iff.mp hfront).2
  · cases h

/-- …and so is the first one of several. -/
theorem prefix_of_firstAt {least extent : ℕ} {before : Option Char} {cs w : List Char}
    (h : firstAt words least before cs = some (w, extent)) : w <+: cs := by
  obtain ⟨v, -, hv⟩ := List.exists_of_findSome?_eq_some h
  split at hv
  · next hextent =>
    split at hv
    · obtain ⟨rfl, -⟩ := Prod.mk.inj (Option.some.inj hv)
      exact prefix_of_extent? hextent
    · cases hv
  · cases hv

/-- Words that are found where the text ends. -/
theorem exists_occurrences_nil (words : List (List Char)) (i skip : ℕ) (before : Option Char) :
    ∃ found : List (List Char), (∀ w ∈ found, w <+: []) ∧
      occurrences words i skip before [] = found.map (i, ·) := by
  rw [occurrences]
  split
  · split
    · next hfirst => exact ⟨[_], List.forall_mem_singleton.mpr (prefix_of_firstAt hfirst), rfl⟩
    · exact ⟨[], by simp, rfl⟩
  · exact ⟨[], by simp, rfl⟩

/-- **One step of the search**: words that are found where it stands, and what is found from the
next character on. -/
theorem exists_occurrences_cons (words : List (List Char)) (i skip : ℕ) (before : Option Char)
    (c : Char) (cs : List Char) : ∃ (found : List (List Char)) (skip' : ℕ),
      (∀ w ∈ found, w <+: c :: cs) ∧
        occurrences words i skip before (c :: cs) =
          found.map (i, ·) ++ occurrences words (i + 1) skip' (some c) cs := by
  cases skip with
  | succ skip => exact ⟨[], skip, by simp, rfl⟩
  | zero =>
    rw [occurrences]
    split
    · exact ⟨[], 0, by simp, rfl⟩
    · next hfirst => exact ⟨[_], _, List.forall_mem_singleton.mpr (prefix_of_firstAt hfirst), rfl⟩
    · next hfirst =>
      have hfront := prefix_of_firstAt hfirst
      split
      · next hnext =>
        exact ⟨[_, _], _, List.forall_mem_cons.mpr
          ⟨hfront, List.forall_mem_singleton.mpr (prefix_of_firstAt hnext)⟩, rfl⟩
      · exact ⟨[_], 0, List.forall_mem_singleton.mpr hfront, rfl⟩

/-- Occurrences lie within the text. -/
theorem occurrences_bounds : ∀ {i skip : ℕ} {before : Option Char} {cs : List Char}
    {hit : ℕ × List Char}, hit ∈ occurrences words i skip before cs →
      i ≤ hit.1 ∧ hit.1 ≤ i + cs.length
  | i, skip, before, [], hit, h => by
      obtain ⟨found, -, hfound⟩ := exists_occurrences_nil words i skip before
      rw [hfound] at h
      obtain ⟨w, -, rfl⟩ := List.mem_map.mp h
      simp
  | i, skip, before, c :: cs, hit, h => by
      obtain ⟨found, skip', -, hfound⟩ := exists_occurrences_cons words i skip before c cs
      rw [hfound] at h
      rcases List.mem_append.mp h with h | h
      · obtain ⟨w, -, rfl⟩ := List.mem_map.mp h
        simp
      · have := occurrences_bounds h
        rw [List.length_cons]
        omega

/-- **What is found is a part of the text.** -/
theorem infix_of_mem_occurrences : ∀ {i skip : ℕ} {before : Option Char} {cs : List Char}
    {hit : ℕ × List Char}, hit ∈ occurrences words i skip before cs → hit.2 <:+: cs
  | i, skip, before, [], hit, h => by
      obtain ⟨found, hfront, hfound⟩ := exists_occurrences_nil words i skip before
      rw [hfound] at h
      obtain ⟨w, hw, rfl⟩ := List.mem_map.mp h
      exact (hfront w hw).isInfix
  | i, skip, before, c :: cs, hit, h => by
      obtain ⟨found, skip', hfront, hfound⟩ := exists_occurrences_cons words i skip before c cs
      rw [hfound] at h
      rcases List.mem_append.mp h with h | h
      · obtain ⟨w, hw, rfl⟩ := List.mem_map.mp h
        exact (hfront w hw).isInfix
      · exact (infix_of_mem_occurrences h).trans (List.suffix_cons c cs).isInfix

/-- **Occurrences come in the order of their offsets.** -/
theorem pairwise_occurrences : ∀ (i skip : ℕ) (before : Option Char) (cs : List Char),
    (occurrences words i skip before cs).Pairwise fun a b => a.1 ≤ b.1
  | i, skip, before, [] => by
      obtain ⟨found, -, hfound⟩ := exists_occurrences_nil words i skip before
      rw [hfound, List.pairwise_map]
      exact List.pairwise_of_forall fun _ _ => le_rfl
  | i, skip, before, c :: cs => by
      obtain ⟨found, skip', -, hfound⟩ := exists_occurrences_cons words i skip before c cs
      rw [hfound, List.pairwise_append, List.pairwise_map]
      refine ⟨List.pairwise_of_forall fun _ _ => le_rfl, pairwise_occurrences _ _ _ cs,
        List.forall_mem_map.mpr fun w _ b hb => ?_⟩
      have := (occurrences_bounds hb).1
      change i ≤ b.1
      omega

/-! ## One line -/

/-- The occurrences of the words in the line of a node. -/
def occurrencesIn (words : List (List Char)) (n : TextNode) : List (ℕ × List Char) :=
  occurrences words 0 0 none n.raw

/-- What the rule finds at an occurrence in a line. -/
def findingAt (n : TextNode) (hit : ℕ × List Char) : Finding Value :=
  ⟨.ofChars (message hit.2 n.raw), .int hit.1, .none, .none, .none⟩

/-- The report of an occurrence in a context. -/
def reportAt (context : Context) (n : TextNode) (hit : ℕ × List Char) : Report :=
  ⟨context.rule, .node n, context.severity, .finding (findingAt n hit)⟩

theorem reportAll_eq (context : Context) (n : TextNode) : ∀ hits : List (ℕ × List Char),
    reportAll context n hits = .ok (hits.map (reportAt context n))
  | [] => rfl
  | _ :: hits =>
      bind_eq_ok_iff.mpr ⟨_, rfl, bind_eq_ok_iff.mpr ⟨_, reportAll_eq context n hits, rfl⟩⟩

/-- **The rule reports the occurrences in a line**, and never fails. -/
theorem onLine_eq (words : List (List Char)) (context : Context) (n : TextNode) :
    onLine words context n = .ok ((occurrencesIn words n).map (reportAt context n)) :=
  reportAll_eq context n _

/-! ## One document -/

theorem textsOf_map_ofChars : ∀ words : List (List Char),
    textsOf (words.map .ofChars) = .ok words
  | [] => rfl
  | w :: words => by
      refine bind_eq_ok_iff.mpr ⟨words, textsOf_map_ofChars words, ?_⟩
      rw [String.toList_ofList]
      rfl

/-- Any words may be configured, in any order. -/
theorem wordsOf_configured (words : List (List Char)) :
    wordsOf (ruleOptions (.table [("words", .list (words.map .ofChars))])) = .ok words :=
  textsOf_map_ofChars words

/-- **The message on an occurrence** in the line of a node. -/
def messageOn (name : String) (severity : Severity) (n : TextNode) (hit : ℕ × List Char) :
    LintMessage :=
  ⟨name, .ofChars (message hit.2 n.raw), n.start + hit.1, n.line, hit.1 + 1, severity, none⟩

/-- Messages on one line are in the order of their offsets. -/
theorem key_messageOn_le {a b : ℕ × List Char} (h : a.1 ≤ b.1) :
    (messageOn name severity n a).key ≤ (messageOn name severity n b).key := by
  rcases h.eq_or_lt with heq | hlt
  · rw [LintMessage.key, LintMessage.key, LintMessage.place, LintMessage.place, messageOn,
      messageOn, heq]
  · have hcolumn : (a.1 + 1 : ℤ) < b.1 + 1 := by omega
    rw [LintMessage.key, LintMessage.key, Prod.Lex.toLex_le_toLex]
    exact Or.inl (Prod.Lex.toLex_lt_toLex.mpr (Or.inr ⟨rfl, hcolumn⟩))

theorem messageFor_reportAt {context : Context} {hit : ℕ × List Char}
    (hn : n ∈ (Document.nodes text).tail) (htext : context.document.text = text)
    (hhit : hit.1 ≤ n.raw.length) :
    Lint.messageFor (.ofText text) (reportAt context n hit) =
      .ok (messageOn context.rule context.severity n hit) := by
  obtain ⟨k, ret, hrow⟩ := Document.exists_showsRow_of_mem hn
  have hposition : Document.position text (n.start + hit.1) = ⟨n.line, hit.1 + 1⟩ :=
    hrow.position_add hhit
  subst htext
  have hoffset : Lint.offsetOf (.ofText context.document.text) n.start
      (.finding (findingAt n hit)) = .ok (n.start + hit.1) := Lint.offsetOf_of_index rfl _ _
  have hplaced := Lint.placed_finding rfl hoffset
  rw [hposition] at hplaced
  exact hplaced

/-- The rule by itself, under a configuration. -/
def configured (name : String) (ruleConfig : Value) : ConfiguredRule := ⟨name, rule, ruleConfig⟩

/-- **The rule looks at lines**, and reports the occurrences of the words it is configured with. -/
theorem looksAtLines (hseverity : Severity.ofConfig ruleConfig = .ok severity)
    (hwords : wordsOf (ruleOptions ruleConfig) = .ok words) :
    LooksAtLines document config (configured name ruleConfig) fun n =>
      (occurrencesIn words n).map (reportAt ⟨name, document, config, severity⟩ n) := by
  cases words with
  | nil =>
    refine .of_idle hseverity (bind_eq_ok_iff.mpr ⟨_, hwords, rfl⟩) fun n => ?_
    exact congrArg (List.map _) (occurrences_of_no_words 0 0 none n.raw)
  | cons w ws =>
    exact .of_handler hseverity (bind_eq_ok_iff.mpr ⟨_, hwords, rfl⟩) fun n => onLine_eq _ _ n

/-- **The rule by itself returns one message for each occurrence**, line after line and from left to
right. -/
theorem run_eq (hseverity : Severity.ofConfig ruleConfig = .ok severity)
    (hwords : wordsOf (ruleOptions ruleConfig) = .ok words) (hoff : severity ≠ .off) :
    Lint.run document config [configured name ruleConfig] =
      .ok ((Document.nodes document.text).tail.flatMap fun n =>
        (occurrencesIn words n).map (messageOn name severity n)) := by
  refine (looksAtLines hseverity hwords).run_eq (fun n hn => ?_)
    (fun n => List.forall_mem_map.mpr fun hit _ => rfl) fun n => ?_
  · have hkept : ∀ r ∈ (occurrencesIn words n).map
        (reportAt ⟨name, document, config, severity⟩ n), decide (r.severity ≠ .off) = true :=
      List.forall_mem_map.mpr fun _ _ => decide_eq_true hoff
    rw [List.filter_eq_self.mpr hkept, List.forall₂_map_left_iff, List.forall₂_map_right_iff,
      List.forall₂_same]
    intro hit hhit
    have hbound := (occurrences_bounds hhit).2
    exact messageFor_reportAt hn rfl (by rwa [Nat.zero_add] at hbound)
  · exact List.pairwise_map.mpr ((pairwise_occurrences 0 0 none n.raw).imp key_messageOn_le)

/-- The rule returns nothing if it is switched off. -/
theorem run_off (hoff : Severity.ofConfig ruleConfig = .ok .off)
    (hwords : wordsOf (ruleOptions ruleConfig) = .ok words) :
    Lint.run document config [configured name ruleConfig] = .ok [] :=
  (looksAtLines hoff hwords).run_off fun _ => List.forall_mem_map.mpr fun _ _ => rfl

end ProseLinter.Markers
