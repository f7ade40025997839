import ProseLinter.Proofs.Layout.Decoration
import ProseLinter.Proofs.Layout.Lossless
import ProseLinter.Proofs.Path

/-!
# Proofs/Layout/Totals — what the layouts count

Codes end before their lines do, so a report is read line by line without them
(`stripCodes_append_newline`).  The last line that is not about fixes is the **closing** one, and
what it counts are its numbers (`numbersIn`).  Compact counts errors and warnings together, unix
counts messages, and stylish counts all of them; without messages that are switched off there is one
total (`Summary.total_eq_length`), and each of the layouts tells it (`Reporter.counts_stylish`,
`Reporter.counts_compact`, `Reporter.counts_unix`).  In the json layout each message has an object
(`Reporter.lists_json`).
-/

namespace ProseLinter

/-! ## Numbers in a text -/

/-- **The numbers in a text**, in the order in which they stand there. -/
def numbersIn (cs : List Char) : List ℕ :=
  ((cs.splitOnP fun c => !c.isDigit).filter fun ds => !ds.isEmpty).map fun ds =>
    Nat.ofDigitChars 10 ds 0

section

variable {c : Char} {cs ds word : List Char}

@[simp] theorem numbersIn_nil : numbersIn [] = [] := by
  rw [numbersIn, List.splitOnP_nil]
  rfl

/-- No number goes on behind a character that is no digit. -/
theorem numbersIn_append_cons (h : c.isDigit = false) (cs ds : List Char) :
    numbersIn (cs ++ c :: ds) = numbersIn cs ++ numbersIn ds := by
  have hsep : (!c.isDigit) = true := by rw [h]; rfl
  rw [numbersIn, List.splitOnP_append_cons cs ds hsep, List.filter_append, List.map_append]
  rfl

/-- A word has no number in it… -/
theorem numbersIn_word_append (h : word.all (!·.isDigit) = true) (ds : List Char) :
    numbersIn (word ++ ds) = numbersIn ds := by
  induction word with
  | nil => rfl
  | cons c word ih =>
    rw [List.all_cons, Bool.and_eq_true, Bool.not_eq_true'] at h
    have hcons := numbersIn_append_cons h.1 [] (word ++ ds)
    rwa [numbersIn_nil, List.nil_append, List.nil_append, ih h.2] at hcons

/-- …and keeps the numbers on both sides of it apart. -/
theorem numbersIn_append_word (h : word.all (!·.isDigit) = true) (hne : word ≠ [])
    (cs ds : List Char) : numbersIn (cs ++ (word ++ ds)) = numbersIn cs ++ numbersIn ds := by
  obtain ⟨c, word, rfl⟩ := List.exists_cons_of_ne_nil hne
  rw [List.all_cons, Bool.and_eq_true, Bool.not_eq_true'] at h
  rw [List.cons_append, numbersIn_append_cons h.1, numbersIn_word_append h.2]

theorem numbersIn_natText (n : ℕ) : numbersIn (Integer.text n) = [n] := by
  have hdigits : ∀ c ∈ Nat.toDigits 10 n, (!c.isDigit) = false := fun c hc => by
    rw [Nat.isDigit_of_mem_toDigits (by decide : 0 < 10) (by decide) hc]
    rfl
  have htext : Integer.text n = Nat.toDigits 10 n := if_neg (by simp)
  rw [htext, numbersIn, List.splitOnP_eq_singleton hdigits]
  simp [Nat.toDigits_ne_nil, Nat.ofDigitChars_ten_toDigits]

/-- **A count has its number**, and keeps it apart from what follows. -/
theorem numbersIn_counted_append {noun : String} (h : noun.toList.all (!·.isDigit) = true) (n : ℕ)
    (ds : List Char) : numbersIn (counted noun n ++ ds) = n :: numbersIn ds := by
  have hplural : (if (n : ℤ) = 1 then [] else ['s']).all (!·.isDigit) = true := by
    split <;> rfl
  have hword : (' ' :: noun.toList ++ if (n : ℤ) = 1 then [] else ['s']).all (!·.isDigit) = true :=
    by rw [List.all_append, hplural, List.all_cons, h]; rfl
  rw [counted, List.append_assoc (Integer.text n), List.append_assoc (Integer.text n),
    numbersIn_append_word hword (by simp), numbersIn_natText]
  rfl

theorem numbersIn_counted {noun : String} (h : noun.toList.all (!·.isDigit) = true) (n : ℕ) :
    numbersIn (counted noun n) = [n] := by
  have happend := numbersIn_counted_append h n []
  rwa [List.append_nil, numbersIn_nil] at happend

end

namespace Layout

/-! ## Reports line by line -/

/-- **Codes end before their lines do.** -/
theorem afterCode?_append_newline (cs ds : List Char) :
    afterCode? (cs ++ '\n' :: ds) = (afterCode? cs).map (· ++ '\n' :: ds) := by
  have hcode : ∀ parameters letter, parameters.all isParameter = true → letter.isAlpha = true →
      '\n' ∉ escapeChar :: '[' :: parameters ++ [letter] := by
    intro parameters letter hparameters hletter hmem
    rcases List.mem_append.mp hmem with hmem | hmem
    · rcases List.mem_cons.mp hmem with heq | hmem
      · exact absurd heq (by decide)
      rcases List.mem_cons.mp hmem with heq | hmem
      · exact absurd heq (by decide)
      · exact absurd (List.all_eq_true.mp hparameters _ hmem) (by decide)
    · exact absurd (List.mem_singleton.mp hmem ▸ hletter) (by decide)
  refine Option.ext fun rest => ?_
  rw [afterCode?_eq_some_iff, Option.map_eq_some_iff]
  constructor
  · rintro ⟨parameters, letter, hparameters, hletter, heq⟩
    have hprefix : escapeChar :: '[' :: parameters ++ [letter] <+: cs ++ '\n' :: ds :=
      ⟨rest, by rw [heq]; simp⟩
    obtain ⟨more, rfl⟩ :=
      (Text.prefix_append_cons_iff (hcode parameters letter hparameters hletter)).mp hprefix
    have hafter : afterCode? (escapeChar :: '[' :: parameters ++ [letter] ++ more) = some more :=
      afterCode?_eq_some_iff.mpr ⟨parameters, letter, hparameters, hletter, by simp⟩
    exact ⟨more, hafter, by simpa using heq⟩
  · rintro ⟨rest, h, rfl⟩
    obtain ⟨parameters, letter, hparameters, hletter, rfl⟩ := afterCode?_eq_some_iff.mp h
    exact ⟨parameters, letter, hparameters, hletter, by simp⟩

theorem stripCodes_append_newline : ∀ cs ds : List Char,
    stripCodes (cs ++ '\n' :: ds) = stripCodes cs ++ '\n' :: stripCodes ds
  | [], ds => by
    rw [List.nil_append, stripCodes_cons_of_ne (by decide), stripCodes_nil, List.nil_append]
  | c :: cs, ds => by
    have happend := afterCode?_append_newline (c :: cs) ds
    rw [List.cons_append] at happend ⊢
    cases hafter : afterCode? (c :: cs) with
    | none =>
      rw [hafter] at happend
      rw [stripCodes_cons_of_none happend, stripCodes_cons_of_none hafter,
        stripCodes_append_newline cs ds, List.cons_append]
    | some rest =>
      rw [hafter] at happend
      have hlength := length_lt_of_afterCode? hafter
      rw [stripCodes_of_afterCode? happend, stripCodes_of_afterCode? hafter,
        stripCodes_append_newline rest ds]
termination_by cs => cs.length
decreasing_by
  all_goals simp_all

/-- **The lines of a report** as they are seen. -/
def linesOf (report : List Char) : List (List Char) := Text.splitOn '\n' (stripCodes report)

/-- **The closing line** of a report: the last one that does not tell of fixes. -/
def closing (report : List Char) : List Char :=
  ((linesOf report).reverse.find? fun line => line.head? ≠ some '✓').getD []

@[simp] theorem closing_nil : closing [] = [] := by
  rw [closing, linesOf, stripCodes_nil]
  rfl

/-- **A line of a report**: no code and no line break is in it. -/
structure IsLine (cs : List Char) : Prop where
  bare : isBare cs = true
  newline : '\n' ∉ cs

variable {lines : List (List Span)} {count mark : Span}

/-- A span without codes is seen as its text. -/
theorem stripCodes_render (colors : Bool) (h : isBare count.text = true) :
    stripCodes (count.render .terminal colors) = count.text := by
  cases colors with
  | true => exact (decorates_span .terminal h).stripCodes_eq
  | false =>
    rw [Span.render_false]
    exact (Decorates.of_isBare h).stripCodes_eq

/-- **A line more** in a layout is a line more that is seen. -/
theorem linesOf_render_concat (colors : Bool) (hlines : lines ≠ []) (hcount : IsLine count.text) :
    linesOf (render .terminal colors (lines ++ [[count]])) =
      linesOf (render .terminal colors lines) ++ [count.text] := by
  have hrender : render .terminal colors (lines ++ [[count]]) =
      render .terminal colors lines ++ '\n' :: count.render .terminal colors := by
    rw [render, List.map_append, Text.join_append (by simpa using hlines) (by simp)]
    simp [render, Text.join]
  rw [hrender, linesOf, stripCodes_append_newline, Text.splitOn_append_cons,
    stripCodes_render colors hcount.bare, Text.splitOn_of_not_mem hcount.newline, linesOf]

/-- The last line closes a report if it does not tell of fixes… -/
theorem closing_render_concat (colors : Bool) (hlines : lines ≠ []) (hcount : IsLine count.text)
    (hhead : count.text.head? ≠ some '✓') :
    closing (render .terminal colors (lines ++ [[count]])) = count.text := by
  rw [closing, linesOf_render_concat colors hlines hcount, List.reverse_concat,
    List.find?_cons_of_pos (by simpa using hhead), Option.getD_some]

/-- …and the line before it if it does. -/
theorem closing_render_mark (colors : Bool) (hlines : lines ≠ []) (hcount : IsLine count.text)
    (hhead : count.text.head? ≠ some '✓') (hmark : IsLine mark.text)
    (hfixes : mark.text.head? = some '✓') :
    closing (render .terminal colors (lines ++ [[count]] ++ [[mark]])) = count.text := by
  rw [closing, linesOf_render_concat colors (by simp) hmark, List.reverse_concat,
    List.find?_cons_of_neg (by simpa using hfixes), linesOf_render_concat colors hlines hcount,
    List.reverse_concat, List.find?_cons_of_pos (by simpa using hhead), Option.getD_some]

/-! ## Closing lines of the layouts -/

theorem not_mem_integerText {c : Char} (hdigit : c.isDigit = false) (hc : c ≠ '-') (n : ℤ) :
    c ∉ Integer.text n := by
  have hdigits : c ∉ Nat.toDigits 10 n.natAbs := fun hmem => by
    rw [Nat.isDigit_of_mem_toDigits (by decide : 0 < 10) (by decide) hmem] at hdigit
    cases hdigit
  rw [Integer.text]
  split <;> simp [hdigits, hc]

/-- A count is made of digits, a blank and its noun. -/
theorem not_mem_counted {c : Char} {noun : String} (hdigit : c.isDigit = false)
    (hc : c ≠ '-' ∧ c ≠ ' ' ∧ c ≠ 's') (hnoun : c ∉ noun.toList) (n : ℤ) :
    c ∉ counted noun n := by
  have hplural : c ∉ (if n = 1 then [] else ['s']) := by
    split <;> simp [hc]
  simp [counted, not_mem_integerText hdigit hc.1, hnoun, hplural, hc]

theorem isLine_counted (n : ℤ) : IsLine (counted "problem" n) where
  bare := isBare_counted "problem" rfl n
  newline := not_mem_counted rfl (by decide) (by decide) n

theorem isLine_problems (s : Summary) : IsLine (Stylish.problems s) := by
  have hcounted : ∀ noun : String, '\n' ∉ noun.toList → ∀ n : ℤ, '\n' ∉ counted noun n :=
    fun noun hnoun n => not_mem_counted rfl (by decide) hnoun n
  refine ⟨isBare_problems s, ?_⟩
  delta Stylish.problems
  simp only [List.mem_append, not_or]
  exact ⟨⟨⟨⟨⟨⟨by decide, hcounted _ (by decide) _⟩, by decide⟩, hcounted _ (by decide) _⟩,
    by decide⟩, hcounted _ (by decide) _⟩, by decide⟩

theorem isLine_fixables (n : ℕ) : IsLine (Stylish.fixables n) := by
  have hplural : '\n' ∉ (if n = 1 then [] else ['s']) := by split <;> decide
  refine ⟨isBare_fixables n, ?_⟩
  delta Stylish.fixables
  simp only [List.mem_append, not_or]
  exact ⟨⟨⟨⟨by decide, not_mem_integerText rfl (by decide) n⟩, by decide⟩, hplural⟩, by decide⟩

/-- A count does not tell of fixes. -/
theorem head?_counted_ne (n : ℤ) : (counted "problem" n).head? ≠ some '✓' := fun hhead =>
  absurd (List.mem_of_head? hhead) (not_mem_counted rfl (by decide) (by decide) n)

/-- The line of problems tells of a total, errors and warnings. -/
theorem numbersIn_problems (s : Summary) :
    numbersIn (Stylish.problems s) = [s.total, s.errors, s.warnings] := by
  delta Stylish.problems
  simp only [List.append_assoc]
  rw [numbersIn_word_append (by decide), numbersIn_counted_append (by decide),
    numbersIn_word_append (by decide), numbersIn_counted_append (by decide),
    numbersIn_word_append (by decide), numbersIn_counted_append (by decide)]
  rfl

variable {results : List LintResult}

/-- Where something is counted, there are lines of files. -/
theorem flatMap_fileLines_ne_nil
    (h : (Summary.ofMessages (LintResult.allMessages results)).total ≠ 0) :
    results.flatMap Stylish.fileLines ≠ [] := fun hnil => h <| by
  have hnone : ∀ r ∈ results, r.messages = [] := fun r hr => by
    have hlines := List.flatMap_eq_nil_iff.mp hnil r hr
    rw [Stylish.fileLines] at hlines
    split at hlines
    · next hempty => exact List.isEmpty_iff.mp hempty
    · cases hlines
  rw [LintResult.allMessages, List.flatMap_eq_nil_iff.mpr hnone, Summary.total_ofMessages_nil]

/-- **The stylish layout** closes with the line of problems. -/
theorem closing_stylish (colors : Bool)
    (h : (Summary.ofMessages (LintResult.allMessages results)).total ≠ 0) :
    closing (render .terminal colors (Stylish.lines results)) =
      Stylish.problems (Summary.ofMessages (LintResult.allMessages results)) := by
  have hfiles := flatMap_fileLines_ne_nil h
  have hhead : ∀ s, (Stylish.problems s).head? ≠ some '✓' := fun s => by
    change some '✖' ≠ some '✓'
    decide
  rw [Stylish.lines]
  simp only [if_neg h]
  split_ifs with hfixable
  · exact closing_render_concat colors hfiles (isLine_problems _) (hhead _)
  · rw [List.append_cons]
    exact closing_render_mark colors hfiles (isLine_problems _) (hhead _) (isLine_fixables _) rfl

end Layout

/-! ## What a text layout tells -/

variable {ms : List LintMessage} {results : List LintResult}

/-- **Errors and warnings** are all messages if none is switched off. -/
theorem Summary.total_eq_length (h : ∀ m ∈ ms, m.severity ≠ .off) :
    (ofMessages ms).total = ms.length := by
  have hwarnings : (ms.countP fun m => m.severity == .warning) =
      ms.countP fun m => ¬ m.severity == .error :=
    List.countP_congr fun m hm => by
      have hoff := h m hm
      cases hseverity : m.severity <;> simp_all
  rw [List.length_eq_countP_add_countP (l := ms) fun m => m.severity == .error, ← hwarnings]
  rfl

namespace LintMessage

/-- **A message can be written in a line**: its line and column have few enough digits, and its text
can be made. -/
def IsWritable (m : LintMessage) : Prop :=
  Integer.isWritable m.line = true ∧ Integer.isWritable m.column = true ∧
    ∃ cs, m.message.plain = .ok cs

theorem plain_int_isOk_iff {i : ℤ} :
    (∃ cs, (Value.int i).plain = .ok cs) ↔ Integer.isWritable i = true := by
  have hplain : (Value.int i).plain =
      if Integer.isWritable i then .ok (Integer.text i) else .error .tooManyDigits := rfl
  rw [hplain]
  split <;> simp_all

theorem checkBodies_eq_ok_iff : checkBodies ms = .ok () ↔ ∀ m ∈ ms, m.IsWritable := by
  induction ms with
  | nil => simp [checkBodies]
  | cons m ms ih =>
    rw [checkBodies, List.forall_mem_cons, ← ih, IsWritable]
    simp only [bind_eq_ok_iff, ← plain_int_isOk_iff, exists_and_right, and_assoc]

end LintMessage

namespace Reporter

open Layout LintResult

variable {colors : Bool} {text : List Char}

theorem checked_eq_ok_iff {cs : List Char} :
    checked ms cs = .ok text ↔ (∀ m ∈ ms, m.IsWritable) ∧ text = cs := by
  rw [checked, bind_eq_ok_iff, ← LintMessage.checkBodies_eq_ok_iff]
  constructor
  · rintro ⟨⟨⟩, h, heq⟩
    exact ⟨h, (Except.ok.inj heq).symm⟩
  · rintro ⟨h, rfl⟩
    exact ⟨(), h, rfl⟩

/-- **A layout counts messages**: in any colours it has a report exactly if each of the messages can
be written in a line.  The report is empty exactly if there are no messages, and otherwise it closes
with the counts. -/
structure Counts (reporter : Reporter) (results : List LintResult) (counts : List ℕ) : Prop where
  isOk_iff : ∀ colors, (∃ text, reporter.format colors (.lint results) = .ok text) ↔
    ∀ m ∈ allMessages results, m.IsWritable
  eq_nil_iff : ∀ colors text, reporter.format colors (.lint results) = .ok text →
    (text = [] ↔ (allMessages results).length = 0)
  closing : ∀ colors text, reporter.format colors (.lint results) = .ok text →
    (allMessages results).length ≠ 0 → numbersIn (closing text) = counts

/-- A layout of lines counts messages if it has no lines without them and closes with the counts. -/
theorem counts_of_lines {reporter : Reporter} {counts : List ℕ} {lines : List (List Span)}
    (hformat : ∀ colors, reporter.format colors (.lint results) =
      checked (allMessages results) (render .terminal colors lines))
    (hnil : (allMessages results).length = 0 → lines = []) (hcounts : counts ≠ [])
    (hclosing : ∀ colors, (allMessages results).length ≠ 0 →
      numbersIn (Layout.closing (render .terminal colors lines)) = counts) :
    reporter.Counts results counts := by
  refine ⟨fun colors => ?_, fun colors text htext => ?_, fun colors text htext h => ?_⟩
  · simp only [hformat, checked_eq_ok_iff, exists_and_left, exists_eq, and_true]
  · obtain ⟨-, rfl⟩ := checked_eq_ok_iff.mp ((hformat colors).symm.trans htext)
    refine ⟨fun hrender => by_contra fun h => hcounts ?_, fun h => by rw [hnil h]; rfl⟩
    rw [← hclosing colors h, hrender, closing_nil, numbersIn_nil]
  · obtain ⟨-, rfl⟩ := checked_eq_ok_iff.mp ((hformat colors).symm.trans htext)
    exact hclosing colors h

/-- A layout with a line for each message counts messages if a count of problems closes it. -/
theorem counts_of_footer {reporter : Reporter} {line : LintResult → LintMessage → List Span}
    {n : ℕ} {footer : Span}
    (hformat : ∀ colors, reporter.format colors (.lint results) =
      checked (allMessages results) (render .terminal colors
        (results.flatMap (fun r => r.messages.map (line r)) ++
          if n = 0 then [] else [[], [footer]])))
    (hn : n = (allMessages results).length) (hfooter : footer.text = counted "problem" n) :
    reporter.Counts results [(allMessages results).length] := by
  subst hn
  refine counts_of_lines hformat (fun hnone => ?_) (List.cons_ne_nil _ _) fun colors hsome => ?_
  · have hmessages := List.flatMap_eq_nil_iff.mp (List.eq_nil_of_length_eq_zero hnone)
    rw [if_pos hnone, List.append_nil]
    exact List.flatMap_eq_nil_iff.mpr fun r hr => by rw [hmessages r hr, List.map_nil]
  · rw [if_neg hsome, List.append_cons, closing_render_concat colors (by simp)
      (hfooter ▸ isLine_counted _) (hfooter ▸ head?_counted_ne _), hfooter,
      numbersIn_counted (by decide)]

/-- **The stylish layout** counts messages, errors and warnings. -/
theorem counts_stylish (h : ∀ m ∈ allMessages results, m.severity ≠ .off) :
    stylish.Counts results [(allMessages results).length,
      (Summary.ofMessages (allMessages results)).errors,
      (Summary.ofMessages (allMessages results)).warnings] := by
  have htotal := Summary.total_eq_length h
  refine counts_of_lines (fun _ => rfl) (fun hnone => ?_) (List.cons_ne_nil _ _)
    fun colors hsome => ?_
  · rw [Stylish.lines]
    exact if_pos (htotal.trans hnone)
  · rw [closing_stylish colors (htotal ▸ hsome), numbersIn_problems, htotal]

/-- **The compact layout** counts messages. -/
theorem counts_compact (h : ∀ m ∈ allMessages results, m.severity ≠ .off) :
    compact.Counts results [(allMessages results).length] :=
  counts_of_footer (fun _ => rfl) (Summary.total_eq_length h) rfl

/-- **The unix layout** counts messages. -/
theorem counts_unix : unix.Counts results [(allMessages results).length] :=
  counts_of_footer (fun _ => rfl) rfl rfl

end Reporter

/-! ## What the json layout tells -/

namespace Json

/-- The items of an array. -/
def items : Json → List Json
  | .array js => js
  | _ => []

/-- The member of an object with a name. -/
def member? (key : String) : Json → Option Json
  | .object members => members.lookup key
  | _ => none

/-- **The objects for messages** in a report: those under the messages of each file. -/
def messageObjects (report : Json) : List Json :=
  report.items.flatMap fun file => ((file.member? "messages").map items).getD []

end Json

theorem LintMessage.toJsonAll_eq_ok_iff {js : List Json} :
    toJsonAll ms = .ok js ↔ List.Forall₂ (fun m j => m.toJson = .ok j) ms js := by
  rw [← toJsonItems_toDict, Value.toJsonItems_eq_mapM, mapM_eq_ok_iff, List.forall₂_map_left_iff]
  simp only [toJson_toDict]

namespace LintResult

theorem toJson_eq_ok_iff {r : LintResult} {j : Json} : r.toJson = .ok j ↔
    ∃ js, List.Forall₂ (fun m j => m.toJson = .ok j) r.messages js ∧
      j = .object [("filePath", .text r.path), ("messages", .array js)] := by
  rw [toJson, bind_eq_ok_iff]
  simp only [LintMessage.toJsonAll_eq_ok_iff]
  exact exists_congr fun js => and_congr_right fun _ =>
    ⟨fun h => (Except.ok.inj h).symm, fun h => h ▸ rfl⟩

theorem toJsonAll_eq_ok_iff {js : List Json} :
    toJsonAll results = .ok js ↔ List.Forall₂ (fun r j => r.toJson = .ok j) results js := by
  rw [← toJsonItems_map toJsonAll toJson_toDict rfl fun _ _ => rfl, Value.toJsonItems_eq_mapM,
    mapM_eq_ok_iff, List.forall₂_map_left_iff]
  simp only [toJson_toDict]

/-- **Each message has its object**, in the order of the messages. -/
theorem forall₂_messageObjects {js : List Json} (h : toJsonAll results = .ok js) :
    List.Forall₂ (fun m j => m.toJson = .ok j) (allMessages results)
      (Json.messageObjects (.array js)) := by
  refine List.rel_flatMap (toJsonAll_eq_ok_iff.mp h) fun r j hj => ?_
  obtain ⟨objects, hobjects, rfl⟩ := toJson_eq_ok_iff.mp hj
  exact hobjects

/-- Results have a JSON form if their messages have. -/
theorem exists_toJsonAll_iff : (∃ js, toJsonAll results = .ok js) ↔
    ∀ m ∈ allMessages results, ∃ j, m.toJson = .ok j := by
  refine ⟨fun ⟨js, hjs⟩ m hm => ?_, fun h => ?_⟩
  · obtain ⟨j, -, hj⟩ := forall₂_left (forall₂_messageObjects hjs) m hm
    exact ⟨j, hj⟩
  · have hresult : ∀ r ∈ results, ∃ j, r.toJson = .ok j := fun r hr => by
      obtain ⟨js, hjs⟩ := exists_forall₂ fun m hm => h m (List.mem_flatMap.mpr ⟨r, hr, hm⟩)
      exact ⟨_, toJson_eq_ok_iff.mpr ⟨js, hjs, rfl⟩⟩
    obtain ⟨js, hjs⟩ := exists_forall₂ hresult
    exact ⟨js, toJsonAll_eq_ok_iff.mpr hjs⟩

end LintResult

namespace Reporter

open LintResult

/-- **The json layout lists messages**: in any colours it has a report exactly if each message has a
JSON form.  The report is the text of a value with an object for each message, in their order, and
every reader of JSON finds that value if it is portable. -/
structure Lists (results : List LintResult) : Prop where
  isOk_iff : ∀ colors, (∃ text, json.format colors (.lint results) = .ok text) ↔
    ∀ m ∈ allMessages results, ∃ j, m.toJson = .ok j
  objects : ∀ colors text, json.format colors (.lint results) = .ok text →
    ∃ report : Json, text = Json.write .indented report ∧
      (report.isPortable = true → ∀ read, Json.IsReader read → read text = some report) ∧
      List.Forall₂ (fun m j => m.toJson = .ok j) (allMessages results) report.messageObjects ∧
      report.messageObjects.length = (allMessages results).length

theorem lists_json (results : List LintResult) : Lists results := by
  have hformat : ∀ colors text, json.format colors (.lint results) = .ok text ↔
      ∃ js, toJsonAll results = .ok js ∧ text = Json.write .indented (.array js) :=
    fun colors text => bind_eq_ok_iff.trans <| exists_congr fun js => and_congr_right fun _ =>
      ⟨fun h => (Except.ok.inj h).symm, fun h => h ▸ rfl⟩
  refine ⟨fun colors => ?_, fun colors text htext => ?_⟩
  · simp only [hformat, ← exists_toJsonAll_iff]
    exact ⟨fun ⟨_, js, hjs, _⟩ => ⟨js, hjs⟩, fun ⟨js, hjs⟩ => ⟨_, js, hjs, rfl⟩⟩
  · obtain ⟨js, hjs, rfl⟩ := (hformat colors text).mp htext
    have hobjects := forall₂_messageObjects hjs
    exact ⟨.array js, rfl, fun hportable read hread =>
      hread _ _ hportable (Json.spells_write .indented hportable), hobjects,
      hobjects.length_eq.symm⟩

end Reporter

end ProseLinter
