import ProseLinter.Layout.Reporter
import ProseLinter.Proofs.Json.Data

/-!
# Proofs/Layout/Decoration — colours are only decoration

A report with colours is the report without them, with codes put in between.  A text **decorates**
another if taking the codes out of it leaves the other, whatever follows; codes decorate nothing,
texts without codes decorate themselves, and what is put together from decorations is one.  So
every layout with colours decorates the same layout without them, whatever the codes are
(`Reporter.stripCodes_format`).
-/

namespace ProseLinter

namespace Layout

/-! ## Taking codes out -/

/-- Whether no code starts in a text. -/
def isBare (cs : List Char) : Bool := cs.all (· != escapeChar)

@[simp] theorem isBare_cons (c : Char) (cs : List Char) :
    isBare (c :: cs) = (c != escapeChar && isBare cs) := rfl

@[simp] theorem isBare_append (cs ds : List Char) : isBare (cs ++ ds) = (isBare cs && isBare ds) :=
  List.all_append

theorem isBare_of_isPrinted {cs : List Char} (h : cs.all Json.isPrinted = true) :
    isBare cs = true := by
  refine List.all_eq_true.mpr fun c hc => bne_iff_ne.mpr ?_
  rintro rfl
  exact absurd (List.all_eq_true.mp h _ hc) (by decide)

/-- **A text decorates another**: without its codes, it is the other one. -/
def Decorates (decorated cs : List Char) : Prop :=
  ∀ rest, stripCodes (decorated ++ rest) = cs ++ stripCodes rest

@[simp] theorem stripCodes_nil : stripCodes [] = [] := by
  unfold stripCodes
  rfl

theorem stripCodes_cons_of_none {c : Char} {cs : List Char} (h : afterCode? (c :: cs) = none) :
    stripCodes (c :: cs) = c :: stripCodes cs := by
  rw [stripCodes]
  split
  · next hsome => rw [h] at hsome; cases hsome
  · rfl

theorem stripCodes_cons_of_ne {c : Char} (h : c ≠ escapeChar) (cs : List Char) :
    stripCodes (c :: cs) = c :: stripCodes cs := by
  refine stripCodes_cons_of_none ?_
  unfold afterCode?
  split
  · next heq =>
    cases heq
    exact if_neg h
  · rfl

theorem stripCodes_of_afterCode? {c : Char} {cs rest : List Char}
    (h : afterCode? (c :: cs) = some rest) : stripCodes (c :: cs) = stripCodes rest := by
  rw [stripCodes]
  split
  · next hsome => rw [h] at hsome; cases hsome; rfl
  · next hnone => rw [h] at hnone; cases hnone

theorem isParameter_of_isAlpha {c : Char} (h : c.isAlpha = true) : isParameter c = false := by
  by_contra hparameter
  simp only [isParameter, Bool.not_eq_false, Bool.or_eq_true, beq_iff_eq] at hparameter
  obtain (rfl | rfl) | hdigit := hparameter
  · cases h
  · cases h
  · simp only [Char.isAlpha, Char.isUpper, Char.isLower, Char.isDigit, Bool.or_eq_true,
      Bool.and_eq_true, decide_eq_true_eq, UInt32.le_iff_toNat_le] at h hdigit
    have h9 : c.val.toNat ≤ 57 := hdigit.2
    obtain h | h := h
    · have : 65 ≤ c.val.toNat := h.1
      omega
    · have : 97 ≤ c.val.toNat := h.1
      omega

/-- **A code at the front**: the escape character, a bracket, parameters and a letter. -/
theorem afterCode?_eq_some_iff {cs rest : List Char} : afterCode? cs = some rest ↔
    ∃ parameters letter, parameters.all isParameter = true ∧ letter.isAlpha = true ∧
      cs = escapeChar :: '[' :: parameters ++ letter :: rest := by
  constructor
  · intro h
    unfold afterCode? at h
    split at h
    · next c cs =>
      split_ifs at h with hc
      split at h
      · next letter behind hdrop =>
        split_ifs at h with hletter
        obtain rfl := Option.some.inj h
        refine ⟨cs.takeWhile isParameter, letter, List.all_takeWhile, hletter, ?_⟩
        rw [hc, List.cons_append, List.cons_append, ← hdrop, List.takeWhile_append_dropWhile]
      · cases h
    · cases h
  · rintro ⟨parameters, letter, hparameters, hletter, rfl⟩
    have hdrop : (parameters ++ letter :: rest).dropWhile isParameter = letter :: rest := by
      rw [List.dropWhile_append_of_pos (List.all_eq_true.mp hparameters),
        List.dropWhile_cons_of_neg (by simp [isParameter_of_isAlpha hletter])]
    simp only [List.cons_append, afterCode?, if_true, hdrop, hletter]

namespace Decorates

variable {t u cs ds : List Char}

theorem of_isBare (h : isBare cs = true) : Decorates cs cs := fun rest => by
  induction cs with
  | nil => rfl
  | cons c cs ih =>
    rw [isBare_cons, Bool.and_eq_true, bne_iff_ne] at h
    rw [List.cons_append, stripCodes_cons_of_ne h.1, ih h.2]
    rfl

theorem append (ht : Decorates t cs) (hu : Decorates u ds) : Decorates (t ++ u) (cs ++ ds) :=
  fun rest => by rw [List.append_assoc, ht, hu, List.append_assoc]

/-- **Codes decorate nothing.** -/
theorem of_codes (h : Codes t) : Decorates t [] := fun rest => by
  induction h with
  | nil => rfl
  | @cons parameters more letter hparameters hletter _ ih =>
    have hafter : afterCode? (escapeChar :: '[' :: (parameters ++ letter :: (more ++ rest))) =
        some (more ++ rest) :=
      afterCode?_eq_some_iff.mpr ⟨parameters, letter, hparameters, hletter, rfl⟩
    simp only [List.cons_append, List.append_assoc]
    rw [stripCodes_of_afterCode? hafter]
    exact ih

theorem stripCodes_eq (h : Decorates t cs) : stripCodes t = cs := by
  have hnil := h []
  rwa [List.append_nil, stripCodes_nil, List.append_nil] at hnil

/-- Lines are decorated one by one. -/
theorem join {sep : List Char} (hsep : isBare sep = true) {ts css : List (List Char)}
    (h : List.Forall₂ Decorates ts css) : Decorates (Text.join sep ts) (Text.join sep css) := by
  induction h with
  | nil => exact of_isBare rfl
  | @cons t cs ts css ht hrest ih =>
    cases hrest with
    | nil => exact ht
    | cons hu hrest => exact (ht.append (of_isBare hsep)).append ih

end Decorates

/-! ## Lines -/

/-- Whether no code starts in the texts of a line. -/
def isBareLine (line : List Span) : Bool := line.all fun s => isBare s.text

@[simp] theorem isBareLine_cons (s : Span) (line : List Span) :
    isBareLine (s :: line) = (isBare s.text && isBareLine line) := rfl

@[simp] theorem isBareLine_append (line line' : List Span) :
    isBareLine (line ++ line') = (isBareLine line && isBareLine line') := List.all_append

/-- Whether no code starts in the texts of lines. -/
def areBare (lines : List (List Span)) : Bool := lines.all isBareLine

@[simp] theorem areBare_cons (line : List Span) (lines : List (List Span)) :
    areBare (line :: lines) = (isBareLine line && areBare lines) := rfl

@[simp] theorem areBare_append (ls ls' : List (List Span)) :
    areBare (ls ++ ls') = (areBare ls && areBare ls') := List.all_append

section

variable (styler : Styler)

/-- **A styled text is decorated.** -/
theorem decorates_span {s : Span} (h : isBare s.text = true) :
    Decorates (s.render styler true) s.text := by
  cases s with
  | plain cs => exact .of_isBare h
  | styled style cs =>
    have hstyled := ((Decorates.of_codes (styler.codes_before style)).append (.of_isBare h)).append
      (.of_codes styler.codes_after)
    rwa [List.nil_append, List.append_nil] at hstyled

theorem decorates_line : ∀ {line : List Span}, isBareLine line = true →
    Decorates (line.flatMap (Span.render styler true)) (line.flatMap (Span.render styler false))
  | [], _ => .of_isBare rfl
  | s :: line, h => by
    rw [isBareLine_cons, Bool.and_eq_true] at h
    rw [List.flatMap_cons, List.flatMap_cons, Span.render_false]
    exact (decorates_span styler h.1).append (decorates_line h.2)

/-- **Lines with colours decorate the lines without them.** -/
theorem decorates_render {lines : List (List Span)} (h : areBare lines = true) :
    Decorates (render styler true lines) (render styler false lines) := by
  refine .join rfl ?_
  rw [List.forall₂_map_left_iff, List.forall₂_map_right_iff, List.forall₂_same]
  exact fun line hline => decorates_line styler (List.all_eq_true.mp h line hline)

end

end Layout

/-! ## Reports -/

open Layout (isBare areBare isBare_of_isPrinted)

/-- No code starts in what a message shows of itself. -/
def LintMessage.IsBare (m : LintMessage) : Prop :=
  isBare m.body = true ∧ isBare m.ruleId.toList = true

/-- **No code starts** in the paths and messages of results. -/
def Results.AreBare : Results → Prop
  | .lint rs => ∀ r ∈ rs, isBare r.path.toList = true ∧ ∀ m ∈ r.messages, m.IsBare
  | .fix rs => ∀ r ∈ rs, isBare r.path.toList = true ∧ ∀ m ∈ r.applied ++ r.remaining, m.IsBare

namespace Layout

theorem isBare_integerText (i : ℤ) : isBare (Integer.text i) = true :=
  isBare_of_isPrinted (Json.all_isPrinted_integerText i)

theorem isBare_counted (word : String) (h : isBare word.toList = true) (n : ℤ) :
    isBare (counted word n) = true := by
  have hplural : isBare (if n = 1 then [] else ['s']) = true := by split <;> rfl
  simp only [counted, isBare_append, isBare_cons, isBare_integerText, h, hplural]
  rfl

theorem areBare_flatMap {α : Type} {f : α → List (List Span)} {as : List α}
    (h : ∀ a ∈ as, areBare (f a) = true) : areBare (as.flatMap f) = true := by
  refine List.all_eq_true.mpr fun line hline => ?_
  obtain ⟨a, ha, hmem⟩ := List.mem_flatMap.mp hline
  exact List.all_eq_true.mp (h a ha) line hmem

theorem areBare_map {α : Type} {f : α → List Span} {as : List α}
    (h : ∀ a ∈ as, isBareLine (f a) = true) : areBare (as.map f) = true := by
  refine List.all_eq_true.mpr fun line hline => ?_
  obtain ⟨a, ha, rfl⟩ := List.mem_map.mp hline
  exact h a ha

theorem isBare_name (s : Severity) : isBare s.name.toList = true := by cases s <;> rfl

theorem isBare_title (s : Severity) : isBare s.title.toList = true := by cases s <;> rfl

variable {m : LintMessage} {path : String}

theorem isBare_place (m : LintMessage) : isBare (Stylish.place m) = true := by
  simp only [Stylish.place, isBare_cons, isBare_append, isBare_integerText]
  rfl

theorem isBareLine_stylish (h : m.IsBare) : isBareLine (Stylish.messageLine m) = true := by
  have hfix : isBareLine (if m.fix.isSome then [.styled (.ofColor (some .green)) " ✓".toList]
      else []) = true := by split <;> rfl
  simp only [Stylish.messageLine, isBareLine_append, isBareLine_cons, hfix, Span.text,
    isBare_append, isBare_place, isBare_name, h.1, h.2]
  rfl

theorem isBareLine_fixStylish {mark : Char} (hmark : mark ≠ escapeChar) (color : Color)
    (h : m.IsBare) : isBareLine (FixStylish.messageLine mark color m) = true := by
  simp only [FixStylish.messageLine, isBareLine_cons, Span.text, isBare_append, isBare_cons,
    isBare_place, h.1, h.2, bne_iff_ne.mpr hmark]
  rfl

theorem isBare_compact (hpath : isBare path.toList = true) (h : m.IsBare) :
    isBare (Compact.messageLine path m) = true := by
  simp only [Compact.messageLine, isBare_append, isBare_integerText, isBare_title, hpath, h.1, h.2]
  rfl

theorem isBare_unix (hpath : isBare path.toList = true) (h : m.IsBare) :
    isBare (Unix.messageLine path m) = true := by
  simp only [Unix.messageLine, isBare_append, isBare_cons, isBare_integerText, isBare_title, hpath,
    h.1, h.2]
  rfl

theorem isBare_fixCompact (hpath : isBare path.toList = true) (h : m.IsBare) :
    isBare (FixCompact.messageLine path m) = true := by
  simp only [FixCompact.messageLine, isBare_append, isBare_integerText, hpath, h.1, h.2]
  rfl

theorem isBare_problems (s : Summary) : isBare (Stylish.problems s) = true := by
  delta Stylish.problems
  simp only [isBare_append, isBare_counted "problem" rfl,
    isBare_counted "error" rfl, isBare_counted "warning" rfl]
  rfl

theorem isBare_fixables (n : ℕ) : isBare (Stylish.fixables n) = true := by
  have hplural : isBare (if n = 1 then [] else ['s']) = true := by split <;> rfl
  delta Stylish.fixables
  simp only [isBare_append, isBare_integerText, hplural]
  rfl

/-! What the layouts are made of. -/

theorem areBare_stylish {rs : List LintResult} (h : (Results.lint rs).AreBare) :
    areBare (Stylish.lines rs) = true := by
  have hfiles : areBare (rs.flatMap Stylish.fileLines) = true := areBare_flatMap fun r hr => by
    obtain ⟨hpath, hms⟩ := h r hr
    have hlines : areBare (r.messages.map Stylish.messageLine) = true :=
      areBare_map fun m hm => isBareLine_stylish (hms m hm)
    rw [Stylish.fileLines]
    split
    · rfl
    · simp only [areBare_append, areBare_cons, isBareLine_cons, Span.text, hpath, hlines]
      rfl
  unfold Stylish.lines
  dsimp only
  split_ifs
  · rfl
  · simp only [areBare_append, areBare_cons, isBareLine_cons, Span.text, hfiles, isBare_problems]
    rfl
  · simp only [areBare_append, areBare_cons, isBareLine_cons, Span.text, hfiles, isBare_problems,
      isBare_fixables]
    rfl

theorem areBare_fixStylish {rs : List FixResult} (h : (Results.fix rs).AreBare) :
    areBare (FixStylish.lines rs) = true := by
  have hfiles : areBare (rs.flatMap FixStylish.fileLines) = true := areBare_flatMap fun r hr => by
    obtain ⟨hpath, hms⟩ := h r hr
    rw [List.forall_mem_append] at hms
    have happlied : areBare (r.applied.map (FixStylish.messageLine '✔' .green)) = true :=
      areBare_map fun m hm => isBareLine_fixStylish (by decide) .green (hms.1 m hm)
    have hremaining : areBare (r.remaining.map (FixStylish.messageLine '✖' .red)) = true :=
      areBare_map fun m hm => isBareLine_fixStylish (by decide) .red (hms.2 m hm)
    rw [FixStylish.fileLines]
    split
    · rfl
    · simp only [areBare_append, areBare_cons, isBareLine_cons, Span.text, hpath, happlied,
        hremaining]
      rfl
  unfold FixStylish.lines
  dsimp only
  split_ifs
  · rfl
  · simp only [areBare_append, areBare_cons, isBareLine_cons, Span.text, isBare_append, hfiles,
      isBare_counted "problem" rfl]
    rfl
  · simp only [areBare_append, areBare_cons, isBareLine_cons, Span.text, isBare_append, hfiles,
      isBare_counted "problem" rfl]
    rfl

/-- One line for each message, and below, if there is anything to count, an empty line and the
count. -/
theorem areBare_messageLines {α : Type} {rs : List α} {messages : α → List LintMessage}
    (line : α → LintMessage → List Char)
    (h : ∀ r ∈ rs, ∀ m ∈ messages r, isBare (line r m) = true) {uncounted : Prop}
    [Decidable uncounted] {count : Span} (hcount : isBare count.text = true) :
    areBare ((rs.flatMap fun r => (messages r).map fun m => [Span.plain (line r m)]) ++
      if uncounted then [] else [[], [count]]) = true := by
  have hbody : areBare (rs.flatMap fun r => (messages r).map fun m => [Span.plain (line r m)]) =
      true :=
    areBare_flatMap fun r hr => areBare_map fun m hm => by
      rw [isBareLine_cons, Span.text, h r hr m hm]
      rfl
  rw [areBare_append, hbody]
  split
  · rfl
  · simp only [areBare_cons, isBareLine_cons, hcount]
    rfl

theorem areBare_compact {rs : List LintResult} (h : (Results.lint rs).AreBare) :
    areBare (Compact.lines rs) = true := by
  refine areBare_messageLines (fun r : LintResult => Compact.messageLine r.path) (fun r hr m hm => ?_) ?_
  · exact isBare_compact (h r hr).1 ((h r hr).2 m hm)
  · exact isBare_counted "problem" rfl _

theorem areBare_unix {rs : List LintResult} (h : (Results.lint rs).AreBare) :
    areBare (Unix.lines rs) = true := by
  refine areBare_messageLines (fun r : LintResult => Unix.messageLine r.path) (fun r hr m hm => ?_) ?_
  · exact isBare_unix (h r hr).1 ((h r hr).2 m hm)
  · exact isBare_counted "problem" rfl _

theorem areBare_fixCompact {rs : List FixResult} (h : (Results.fix rs).AreBare) :
    areBare (FixCompact.lines rs) = true := by
  refine areBare_messageLines (fun r : FixResult => FixCompact.messageLine r.path) (fun r hr m hm => ?_) ?_
  · exact isBare_fixCompact (h r hr).1 ((h r hr).2 m (List.mem_append_left _ hm))
  · rw [Span.text, isBare_append, isBare_counted "problem" rfl]
    rfl

end Layout

namespace Reporter

open Layout

/-- The checks before a layout are made in either case. -/
theorem map_checked (ms : List LintMessage) {decorated cs : List Char}
    (h : stripCodes decorated = cs) : (checked ms decorated).map stripCodes = checked ms cs := by
  rw [checked, checked]
  cases LintMessage.checkBodies ms with
  | error fault => rfl
  | ok => exact congrArg Except.ok h

/-- **Colours are only decoration**: whatever codes a styler puts in, a report with colours, without
its codes, is the report without colours, if no code starts in the paths and messages. -/
theorem stripCodes_format (styler : Styler) (reporter : Reporter) {results : Results}
    (h : results.AreBare) :
    (reporter.formatWith styler true results).map stripCodes =
      reporter.formatWith styler false results := by
  have hlines : ∀ (ms : List LintMessage) {lines : List (List Span)}, areBare lines = true →
      (checked ms (render styler true lines)).map stripCodes =
        checked ms (render styler false lines) :=
    fun ms _ hbare => map_checked ms (decorates_render styler hbare).stripCodes_eq
  have hjson : ∀ {made : Except ValueFault (List Char)}, (∀ cs, made = .ok cs → isBare cs = true) →
      made.map stripCodes = made := fun {made} hmade => by
    cases made with
    | error fault => rfl
    | ok cs => exact congrArg Except.ok (Decorates.of_isBare (hmade cs rfl)).stripCodes_eq
  have hwritten : ∀ {made : Except ValueFault (List Json)} {cs : List Char},
      (do return Json.write .indented (.array (← made))) = .ok cs → isBare cs = true :=
    fun hcs => by
      obtain ⟨items, -, hitems⟩ := bind_eq_ok_iff.mp hcs
      exact Except.ok.inj hitems ▸ isBare_of_isPrinted (Json.all_isPrinted_write _ _)
  cases results with
  | lint rs =>
    cases reporter with
    | stylish => exact hlines _ (areBare_stylish h)
    | compact => exact hlines _ (areBare_compact h)
    | unix => exact hlines _ (areBare_unix h)
    | json => exact hjson fun cs hcs => hwritten hcs
    | _ => rfl
  | fix rs =>
    cases reporter with
    | fixStylish => exact hlines _ (areBare_fixStylish h)
    | fixCompact => exact hlines _ (areBare_fixCompact h)
    | fixJson => exact hjson fun cs hcs => hwritten hcs
    | _ => rfl

/-- A file with an error. -/
def sample : LintResult := ⟨"a", [⟨"r", .text "[m]", 0, 1, 1, .error, none⟩]⟩

/-- The error can be written. -/
theorem checkBodies_sample : LintMessage.checkBodies (LintResult.allMessages [sample]) = .ok () := by
  have hone : Value.isWritable (.int 1) = true := by
    rw [Value.isWritable]
    exact Integer.isWritable_iff.mpr (by decide)
  simp only [LintResult.allMessages, sample, List.flatMap_cons, List.flatMap_nil, List.append_nil,
    LintMessage.checkBodies, Value.plain, Value.written, hone, if_true]
  rfl

/-- The codes around the count are taken out, and the brackets of the message are kept. -/
theorem stripCodes_format_sample :
    (Results.lint [sample]).AreBare ∧
      (compact.format true (.lint [sample])).map stripCodes =
        compact.format false (.lint [sample]) ∧
      compact.format true (.lint [sample]) =
        .ok "a: line 1, col 1, Error - [m] (r)\n\n\x1b[31m\x1b[1m1 problem\x1b[0m".toList ∧
      compact.format false (.lint [sample]) =
        .ok "a: line 1, col 1, Error - [m] (r)\n\n1 problem".toList := by
  have hbare : (Results.lint [sample]).AreBare := by
    intro r hr
    obtain rfl := List.mem_singleton.mp hr
    exact ⟨rfl, fun m hm => List.mem_singleton.mp hm ▸ ⟨rfl, rfl⟩⟩
  refine ⟨hbare, stripCodes_format .terminal compact hbare, ?_, ?_⟩
  · rw [format, formatWith, checked, checkBodies_sample]
    rfl
  · rw [format, formatWith, checked, checkBodies_sample]
    rfl

end Reporter

end ProseLinter
