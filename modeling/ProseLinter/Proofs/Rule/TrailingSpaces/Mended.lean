import ProseLinter.Proofs.Fix.AtOnce
import ProseLinter.Proofs.Lint.Noninterference
import ProseLinter.Proofs.Rule.TrailingSpaces

/-!
# Proofs/Rule/TrailingSpaces/Mended — what the fixes of trailing spaces make of a text

A text is a list of rows, and the fixes of the rule on trailing spaces act on each row by itself:
they take away what trails and leave a carriage return at the end of the row where it is
(`applyFrom_removals`).  So the mended text has as many rows as the text had, each of them the
mended row (`rows_mended`).

If a carriage return stands only before a line feed, then no row ends in trailing characters that a
carriage return had hidden, and the rule finds nothing in the mended text: `run_mended`.
-/

namespace ProseLinter

open LineMap (rows)

namespace Document

/-! ## Carriage returns -/

/-- **Carriage returns are paired** in a text if each of them stands right before a line feed. -/
def ReturnsPaired (text : List Char) : Prop :=
  ∀ i : ℕ, text[i]? = some '\r' → text[i + 1]? = some '\n'

/-- The carriage return at the end of a row, if there is one. -/
def returnOf (row : List Char) : List Char := row.drop (withoutReturn row).length

theorem withoutReturn_append_returnOf (row : List Char) :
    withoutReturn row ++ returnOf row = row := by
  obtain ⟨ret, -, hrow⟩ := exists_withoutReturn_append row
  have hdrop := congrArg (List.drop (withoutReturn row).length) hrow
  rw [List.drop_left] at hdrop
  rw [returnOf, hdrop, ← hrow]

theorem returnOf_eq (row : List Char) : returnOf row = [] ∨ returnOf row = ['\r'] := by
  obtain ⟨ret, hret, hrow⟩ := exists_withoutReturn_append row
  have hdrop := congrArg (List.drop (withoutReturn row).length) hrow
  rw [List.drop_left] at hdrop
  rwa [returnOf, hdrop]

theorem withoutReturn_append_return (line : List Char) : withoutReturn (line ++ ['\r']) = line := by
  simp [withoutReturn]

theorem withoutReturn_eq_self {line : List Char} (h : '\r' ∉ line) : withoutReturn line = line :=
  if_neg fun hlast => h (List.mem_of_getLast? hlast)

/-- After a carriage return comes a line feed, a line feed put at the end of the text. -/
theorem ReturnsPaired.exists_feed {text before after : List Char} (h : ReturnsPaired text)
    (htext : text ++ ['\n'] = before ++ '\r' :: after) : ∃ rest, after = '\n' :: rest := by
  have hreturn : (text ++ ['\n'])[before.length]? = some '\r' := by rw [htext]; simp
  have hlt : before.length < text.length := by
    by_contra hge
    rw [List.getElem?_append_right (not_lt.mp hge), List.getElem?_singleton] at hreturn
    split at hreturn <;> simp at hreturn
  rw [List.getElem?_append_left hlt] at hreturn
  have hfeed := h _ hreturn
  have hnext : (text ++ ['\n'])[before.length + 1]? = some '\n' := by
    rw [List.getElem?_append_left (List.getElem?_eq_some_iff.mp hfeed).1, hfeed]
  rw [htext, List.getElem?_append_right (Nat.le_add_right _ 1), Nat.add_sub_cancel_left,
    List.getElem?_cons_succ] at hnext
  cases after with
  | nil => simp at hnext
  | cons c rest => exact ⟨rest, by rw [Option.some.inj hnext]⟩

/-- **No carriage return is left in a row** but the one at its end. -/
theorem ReturnsPaired.return_not_mem {text row : List Char} (h : ReturnsPaired text)
    (hrow : row ∈ rows text) : '\r' ∉ withoutReturn row := by
  intro hmem
  obtain ⟨k, hk⟩ := List.mem_iff_getElem?.mp hrow
  obtain ⟨before, after, htext, -⟩ := exists_append_row hk
  obtain ⟨u, v, huv⟩ := List.append_of_mem hmem
  have happ := withoutReturn_append_returnOf row
  rw [huv] at happ
  have hsplit : text ++ ['\n'] =
      (before ++ u) ++ '\r' :: (v ++ returnOf row ++ '\n' :: after) := by
    rw [htext]
    conv_lhs => rw [← happ]
    simp
  obtain ⟨rest, hrest⟩ := h.exists_feed hsplit
  cases v with
  | cons c v =>
    -- the line feed would lie within the row
    obtain rfl : c = '\n' := (List.cons.inj hrest).1
    refine Text.sep_not_mem_of_mem_splitOn hrow ?_
    rw [← happ]
    simp
  | nil =>
    rcases returnOf_eq row with hret | hret
    · -- the carriage return would end the row and be no part of the line
      rw [hret, List.append_nil] at happ
      rw [← happ, withoutReturn_append_return] at huv
      simp at huv
    · rw [hret] at hrest
      simp at hrest

/-- A text that rows make up ends in the last of them, which has no line feed after it. -/
theorem eq_append_last {text last : List Char} {rs : List (List Char)}
    (h : text ++ ['\n'] = (rs ++ [last]).flatMap (· ++ ['\n'])) :
    text = rs.flatMap (· ++ ['\n']) ++ last := by
  rw [List.flatMap_append, List.flatMap_singleton, ← List.append_assoc] at h
  exact List.append_cancel_right h

/-- The last row, which no line feed ends, holds no carriage return at all. -/
theorem ReturnsPaired.return_not_mem_last {text row : List Char} {rs : List (List Char)}
    (h : ReturnsPaired text) (hrows : rows text = rs ++ [row]) : '\r' ∉ row := by
  have htext := eq_append_last (hrows ▸ LineMap.terminated_eq_flatMap text)
  have hret : returnOf row = [] := by
    refine (returnOf_eq row).resolve_right fun hret => ?_
    rw [← withoutReturn_append_returnOf row, hret, ← List.append_assoc] at htext
    obtain ⟨before, hbefore⟩ : ∃ before, text = before ++ ['\r'] := ⟨_, htext⟩
    have hfeed := h before.length (by rw [hbefore]; simp)
    rw [hbefore] at hfeed
    simp at hfeed
  have hmem : row ∈ rows text := hrows ▸ List.mem_append_right rs (List.mem_singleton_self row)
  have hreturn := h.return_not_mem hmem
  have hwhole := withoutReturn_append_returnOf row
  rw [hret, List.append_nil] at hwhole
  rwa [hwhole] at hreturn

/-! ## Line breaks -/

/-- A line with the line break that ends it. -/
structure EndedLine where
  body : List Char
  ending : List Char

/-- **A text taken apart at its line breaks**: lines with their breaks, and what stands after the
last break. -/
structure TakenApart (text : List Char) (ls : List EndedLine) (last : List Char) : Prop where
  text_eq : text = ls.flatMap (fun l => l.body ++ l.ending) ++ last
  ending : ∀ l ∈ ls, l.ending = ['\n'] ∨ l.ending = ['\r', '\n']
  body : ∀ l ∈ ls, '\n' ∉ l.body ∧ '\r' ∉ l.body
  last : '\n' ∉ last ∧ '\r' ∉ last

/-- A row with a line feed as a line with its line break. -/
def endedLine (row : List Char) : EndedLine := ⟨withoutReturn row, returnOf row ++ ['\n']⟩

end Document

open Document

namespace TrailingSpaces

/-! ## Rows -/

/-- What mending makes of a line. -/
def mendLine (skipBlank : Bool) (raw : List Char) : List Char :=
  if flags skipBlank raw then trimmed raw else raw

/-- What mending makes of a row: the carriage return at its end stays. -/
def mendRow (skipBlank : Bool) (row : List Char) : List Char :=
  mendLine skipBlank (withoutReturn row) ++ returnOf row

/-- The removal of the trailing characters of a node. -/
def removal (n : TextNode) : Replacement := ⟨cut n, rawStop n, []⟩

/-- The removals in rows that follow each other. -/
def removals (skipBlank : Bool) (start number : ℕ) (rs : List (List Char)) : List Replacement :=
  ((lineNodes start number rs).filter fun n => flags skipBlank n.raw).map removal

variable {skipBlank : Bool}

theorem prefix_mendLine (skipBlank : Bool) (raw : List Char) : mendLine skipBlank raw <+: raw := by
  unfold mendLine
  split
  exacts [prefix_trimmed raw, List.prefix_rfl]

/-- A mended line is not flagged. -/
theorem flags_mendLine (skipBlank : Bool) (raw : List Char) :
    flags skipBlank (mendLine skipBlank raw) = false := by
  unfold mendLine
  cases h : flags skipBlank raw with
  | false => simpa using h
  | true =>
    have hidem : trimmed (trimmed raw) = trimmed raw := List.rdropWhile_idempotent isTrailing raw
    simp [flags, hidem]

theorem le_start_of_mem_lineNodes : ∀ {start number : ℕ} {rs : List (List Char)} {n : TextNode},
    n ∈ lineNodes start number rs → (start : ℤ) ≤ n.start
  | _, _, [], _, h => absurd h (by simp [lineNodes])
  | start, number, r :: rs, n, h => by
      rcases List.mem_cons.mp h with rfl | h
      · exact le_rfl
      · have := le_start_of_mem_lineNodes h
        omega

theorem le_start_of_mem_removals {start number : ℕ} {rs : List (List Char)} {e : Replacement}
    (h : e ∈ removals skipBlank start number rs) : (start : ℤ) ≤ e.start := by
  obtain ⟨n, hn, rfl⟩ := List.mem_map.mp h
  have hle := le_start_of_mem_lineNodes (List.mem_filter.mp hn).1
  simp only [removal, cut]
  omega

/-- The removal in a row that starts at an offset, if it is flagged. -/
def rowRemovals (skipBlank : Bool) (start : ℕ) (row : List Char) : List Replacement :=
  if flags skipBlank (withoutReturn row) then
    [⟨start + (trimmed (withoutReturn row)).length, start + (withoutReturn row).length, []⟩]
  else []

theorem removals_cons (start number : ℕ) (r : List Char) (rs : List (List Char)) :
    removals skipBlank start number (r :: rs) =
      rowRemovals skipBlank start r ++
        removals skipBlank (start + r.length + 1) (number + 1) rs := by
  rw [removals, lineNodes, rowRemovals]
  cases h : flags skipBlank (withoutReturn r) with
  | true =>
    rw [List.filter_cons_of_pos (by exact h)]
    rfl
  | false =>
    rw [List.filter_cons_of_neg (by simp [h])]
    rfl

/-- **One row**: it is mended, and what follows it is left to the other edits. -/
theorem applyFrom_rowRemovals {before r after : List Char} {es : List Replacement}
    (hes : ∀ e ∈ es, ((before.length + r.length + 1 : ℕ) : ℤ) ≤ e.start) :
    Replacement.applyFrom (before ++ (r ++ ['\n']) ++ after) before.length
        (rowRemovals skipBlank before.length r ++ es) =
      mendRow skipBlank r ++ ['\n'] ++ Replacement.applyFrom (before ++ (r ++ ['\n']) ++ after)
        (before.length + r.length + 1 : ℕ) es := by
  generalize htext : before ++ (r ++ ['\n']) ++ after = text
  have hrow := withoutReturn_append_returnOf r
  have hlen : text.length = before.length + r.length + 1 + after.length := by
    rw [← htext]
    simp only [List.length_append, List.length_singleton]
    omega
  have hsum := congrArg List.length hrow
  rw [List.length_append] at hsum
  rw [rowRemovals, mendRow, mendLine]
  cases h : flags skipBlank (withoutReturn r) with
  | true =>
    obtain ⟨trail, htrail⟩ := prefix_trimmed (withoutReturn r)
    have hkept : slice text before.length (before.length + (trimmed (withoutReturn r)).length) =
        trimmed (withoutReturn r) := by
      refine slice_eq_piece before (trail ++ returnOf r ++ '\n' :: after) ?_ rfl rfl
      rw [← htext]
      conv_lhs => rw [← hrow, ← htrail]
      simp
    have hrest : slice text (before.length + (withoutReturn r).length)
        (before.length + r.length + 1 : ℕ) = returnOf r ++ ['\n'] := by
      refine slice_eq_piece (before ++ withoutReturn r) after ?_ ?_ ?_
      · rw [← htext]
        conv_lhs => rw [← hrow]
        simp
      · simp
      · simp only [List.length_append, List.length_singleton]
        omega
    have hle : (before.length + (withoutReturn r).length : ℤ) ≤
        (before.length + r.length + 1 : ℕ) := by omega
    rw [if_pos rfl, if_pos rfl, List.singleton_append, Replacement.applyFrom, hkept,
      Replacement.applyFrom_eq_append hle (by omega) hes, hrest]
    simp only [List.append_nil, List.append_assoc]
  | false =>
    have hkept : slice text before.length (before.length + r.length + 1 : ℕ) = r ++ ['\n'] := by
      refine slice_eq_piece before after htext.symm rfl ?_
      simp only [List.length_append, List.length_singleton]
      omega
    rw [if_neg (by simp), if_neg (by simp), List.nil_append, hrow,
      Replacement.applyFrom_eq_append (by omega) (by omega) hes, hkept]

/-- **The removals act on each row by itself.** -/
theorem applyFrom_removals (skipBlank : Bool) : ∀ (rs : List (List Char))
    (before after : List Char) (number : ℕ),
    Replacement.applyFrom (before ++ rs.flatMap (· ++ ['\n']) ++ after) before.length
        (removals skipBlank before.length number rs) =
      (rs.map (mendRow skipBlank)).flatMap (· ++ ['\n']) ++ after
  | [], before, after, number => by
      refine slice_eq_piece before [] ?_ rfl ?_ <;> simp
  | r :: rs, before, after, number => by
      have ih := applyFrom_removals skipBlank rs (before ++ (r ++ ['\n'])) after (number + 1)
      have hlen : (before ++ (r ++ ['\n'])).length = before.length + r.length + 1 := by
        simp only [List.length_append, List.length_singleton]
        omega
      have htext : before ++ (r :: rs).flatMap (· ++ ['\n']) ++ after =
          before ++ (r ++ ['\n']) ++ (rs.flatMap (· ++ ['\n']) ++ after) := by simp
      rw [hlen, List.append_assoc (before ++ (r ++ ['\n']))] at ih
      rw [htext, removals_cons, applyFrom_rowRemovals fun e he => le_start_of_mem_removals he, ih,
        List.map_cons, List.flatMap_cons]
      simp only [List.append_assoc]

/-! ## The mended text -/

/-- An empty row at the end has nothing to remove. -/
theorem removals_append_empty : ∀ (start number : ℕ) (rs : List (List Char)),
    removals skipBlank start number (rs ++ [[]]) = removals skipBlank start number rs
  | start, number, [] => by
      have hempty : rowRemovals skipBlank start [] = [] := by
        simp [rowRemovals, flags, trimmed, withoutReturn]
      rw [List.nil_append, removals_cons, hempty]
      rfl
  | start, number, r :: rs => by
      rw [List.cons_append, removals_cons, removals_cons, removals_append_empty]

/-- The removals in the lines of a text are those in its rows. -/
theorem removals_lines (text : List Char) :
    removals skipBlank 0 1 (lines text) = removals skipBlank 0 1 (rows text) := by
  rcases rows_eq_lines text with h | h <;> rw [h]
  rw [removals_append_empty]

/-- The fixes of the rule are its removals. -/
theorem mended_flagged (name : String) (severity : Severity) (skipBlank : Bool)
    (text : List Char) :
    Lint.mended text ((flagged skipBlank text).map (messageOn name severity)) =
      Replacement.applyAll text (removals skipBlank 0 1 (rows text)) := by
  have hfix : ∀ n, ((messageOn name severity n).fix.bind Fix.replacement?) = some (removal n) :=
    fun n => by simp [messageOn, fixFor, Fix.replacement?, removal]
  rw [← removals_lines, Lint.mended, List.filterMap_map]
  simp only [Function.comp_def, hfix, List.filterMap_eq_map']
  rfl

/-- The removals lie within the text. -/
theorem removals_le_length {text : List Char} {e : Replacement}
    (he : e ∈ removals skipBlank 0 1 (rows text)) :
    e.start ≤ text.length ∧ e.stop ≤ text.length := by
  rw [← removals_lines] at he
  obtain ⟨n, hn, rfl⟩ := List.mem_map.mp he
  obtain ⟨k, ret, h⟩ := exists_showsRow_of_mem (List.mem_filter.mp hn).1
  have hle := (prefix_trimmed n.raw).length_le
  have hstop := h.range_le.2.2
  rw [h.stop_eq] at hstop
  simp only [removal, cut, rawStop]
  omega

/-- **The mended text and a line feed are the mended rows**, each with a line feed after it. -/
theorem mended_terminated (skipBlank : Bool) (text : List Char) :
    Replacement.applyAll text (removals skipBlank 0 1 (rows text)) ++ ['\n'] =
      ((rows text).map (mendRow skipBlank)).flatMap (· ++ ['\n']) := by
  have hrows := applyFrom_removals skipBlank (rows text) [] [] 1
  rw [List.nil_append, List.append_nil, List.append_nil, ← LineMap.terminated_eq_flatMap] at hrows
  rw [← hrows, Replacement.applyAll]
  exact (Replacement.applyFrom_append ['\n'] (Int.natCast_nonneg _)
    fun e he => removals_le_length he).symm

theorem mem_of_mem_mendRow {row : List Char} {c : Char} (h : c ∈ mendRow skipBlank row) :
    c ∈ row := by
  rw [← withoutReturn_append_returnOf row]
  rcases List.mem_append.mp h with h | h
  · exact List.mem_append_left _ ((prefix_mendLine skipBlank _).subset h)
  · exact List.mem_append_right _ h

/-- **The rows of the mended text are the mended rows.** -/
theorem rows_mended (skipBlank : Bool) (text : List Char) :
    rows (Replacement.applyAll text (removals skipBlank 0 1 (rows text))) =
      (rows text).map (mendRow skipBlank) := by
  refine LineMap.rows_eq_of_terminated (mended_terminated skipBlank text) fun r hr hfeed => ?_
  obtain ⟨row, hrow, rfl⟩ := List.mem_map.mp hr
  exact Text.sep_not_mem_of_mem_splitOn hrow (mem_of_mem_mendRow hfeed)

/-- A row without carriage returns but the one at its end is mended in its line. -/
theorem withoutReturn_mendRow {row : List Char} (h : '\r' ∉ withoutReturn row) :
    withoutReturn (mendRow skipBlank row) = mendLine skipBlank (withoutReturn row) := by
  rw [mendRow]
  rcases returnOf_eq row with hret | hret <;> rw [hret]
  · rw [List.append_nil]
    exact withoutReturn_eq_self fun hmem => h ((prefix_mendLine skipBlank _).subset hmem)
  · exact withoutReturn_append_return _

/-- A line node shows a line. -/
theorem exists_line_of_mem_lineNodes : ∀ {start number : ℕ} {ls : List (List Char)} {n : TextNode},
    n ∈ lineNodes start number ls → ∃ line ∈ ls, n.raw = withoutReturn line
  | _, _, [], _, h => absurd h (by simp [lineNodes])
  | _, _, l :: ls, n, h => by
      rcases List.mem_cons.mp h with rfl | h
      · exact ⟨l, List.mem_cons_self, rfl⟩
      · obtain ⟨line, hline, hraw⟩ := exists_line_of_mem_lineNodes h
        exact ⟨line, List.mem_cons_of_mem l hline, hraw⟩

/-- **Nothing is flagged in the mended text**, if carriage returns are paired. -/
theorem flagged_mended {text : List Char} (hpaired : ReturnsPaired text) :
    flagged skipBlank (Replacement.applyAll text (removals skipBlank 0 1 (rows text))) = [] := by
  refine List.filter_eq_nil_iff.mpr fun n hn => ?_
  obtain ⟨line, hline, hraw⟩ := exists_line_of_mem_lineNodes hn
  obtain ⟨k, hk⟩ := List.mem_iff_getElem?.mp hline
  have hmem := List.mem_of_getElem? (getElem?_rows_of_lines hk)
  rw [rows_mended] at hmem
  obtain ⟨row, hrow, rfl⟩ := List.mem_map.mp hmem
  rw [hraw, withoutReturn_mendRow (hpaired.return_not_mem hrow), flags_mendLine]
  exact Bool.false_ne_true

theorem mendLine_false (raw : List Char) : mendLine false raw = raw.rdropWhile isTrailing := by
  unfold mendLine
  cases h : flags false raw with
  | true => rfl
  | false =>
    have htrimmed : trimmed raw = raw := by simpa [flags] using h
    exact htrimmed.symm

/-- **Mending trims each line** and leaves the line breaks, if carriage returns are paired. -/
theorem exists_takenApart {text : List Char} (hpaired : ReturnsPaired text) :
    ∃ ls last, TakenApart text ls last ∧
      Replacement.applyAll text (removals false 0 1 (rows text)) =
        ls.flatMap (fun l => l.body.rdropWhile isTrailing ++ l.ending) ++
          last.rdropWhile isTrailing := by
  obtain ⟨rs, last, hrows⟩ : ∃ rs last, rows text = rs ++ [last] :=
    ⟨_, _, (List.dropLast_append_getLast (Text.splitOn_ne_nil '\n' text)).symm⟩
  have hreturn := hpaired.return_not_mem_last hrows
  have hmem : ∀ r ∈ rs, r ∈ rows text := fun r hr => hrows ▸ List.mem_append_left _ hr
  have hfeed : ∀ r ∈ rows text, '\n' ∉ r := fun r hr => Text.sep_not_mem_of_mem_splitOn hr
  have hlast : mendRow false last = last.rdropWhile isTrailing := by
    have hret : returnOf last = [] := by
      rw [returnOf, withoutReturn_eq_self hreturn, List.drop_length]
    rw [mendRow, hret, List.append_nil, withoutReturn_eq_self hreturn, mendLine_false]
  refine ⟨rs.map endedLine, last, ⟨?_, ?_, ?_, ?_⟩, ?_⟩
  · rw [List.flatMap_map]
    refine (eq_append_last (hrows ▸ LineMap.terminated_eq_flatMap text)).trans
      (congrArg (· ++ last) (List.flatMap_congr fun r _ => ?_))
    rw [endedLine, ← List.append_assoc, withoutReturn_append_returnOf]
  · refine List.forall_mem_map.mpr fun r _ => ?_
    rcases returnOf_eq r with h | h <;> simp [endedLine, h]
  · refine List.forall_mem_map.mpr fun r hr => ⟨fun h => ?_, hpaired.return_not_mem (hmem r hr)⟩
    refine hfeed r (hmem r hr) ?_
    rw [← withoutReturn_append_returnOf r]
    exact List.mem_append_left _ h
  · exact ⟨hfeed last (by rw [hrows]; simp), hreturn⟩
  · have hmended := mended_terminated false text
    rw [hrows, List.map_append, List.map_singleton, ← hrows] at hmended
    rw [eq_append_last hmended, hlast, List.flatMap_map, List.flatMap_map]
    refine congrArg (· ++ _) (List.flatMap_congr fun r _ => ?_)
    rw [mendRow, mendLine_false, endedLine, List.append_assoc]

/-- **The fixes of trailing spaces mend a text.**  Let carriage returns be paired in a text, and let
the rule be configured with any severity, blank lines left alone or not.  The rule returns messages,
the same ones among the messages of other rules, and once all their fixes are made, it returns none.
If the rule is switched on and leaves no blank lines alone, then the fixes have taken away what
trailed in each line, and nothing else. -/
theorem run_mended {document : Document} {config ruleConfig : Value} {severity : Severity}
    (name : String) (hpaired : ReturnsPaired document.text)
    (hseverity : Severity.ofConfig ruleConfig = .ok severity) :
    ∃ messages, Lint.run document config [configured name ruleConfig] = .ok messages ∧
      (∀ rules all, configured name ruleConfig ∈ rules → (rules.map (·.name)).Nodup →
        (∀ r ∈ rules, r.rule.ReportsThroughContext) → Lint.run document config rules = .ok all →
          all.filter (·.ruleId = name) = messages) ∧
      Lint.run ⟨Lint.mended document.text messages, document.path⟩ config
        [configured name ruleConfig] = .ok [] ∧
      (severity ≠ .off → skipsBlank ruleConfig = false →
        ∃ ls last, TakenApart document.text ls last ∧
          Lint.mended document.text messages =
            ls.flatMap (fun l => l.body.rdropWhile isTrailing ++ l.ending) ++
              last.rdropWhile isTrailing) := by
  have hown : ∀ messages, Lint.run document config [configured name ruleConfig] = .ok messages →
      ∀ rules all, configured name ruleConfig ∈ rules → (rules.map (·.name)).Nodup →
        (∀ r ∈ rules, r.rule.ReportsThroughContext) → Lint.run document config rules = .ok all →
          all.filter (·.ruleId = name) = messages :=
    fun messages hrun rules all hmem hnodup hthrough hall =>
      Except.ok.inj ((Lint.run_own hthrough hnodup hall hmem).symm.trans hrun)
  by_cases hoff : severity = .off
  · subst hoff
    exact ⟨[], run_off hseverity, hown [] (run_off hseverity), run_off hseverity,
      fun h => absurd rfl h⟩
  · refine ⟨_, run_eq hseverity hoff, hown _ (run_eq hseverity hoff), ?_, fun _ hskips => ?_⟩
    · rw [run_eq hseverity hoff, mended_flagged, flagged_mended hpaired]
      rfl
    · rw [mended_flagged, hskips]
      exact exists_takenApart hpaired

/-- A text with both line breaks, a blank line, and trailing spaces at its end. -/
theorem run_mended_crlf :
    let document : Document := ⟨['a', ' ', '\r', '\n', '\t', '\n', 'b', ' ', ' '], none⟩
    let spaces := configured "spaces" (.bool true)
    ReturnsPaired document.text ∧
      ∃ messages, Lint.run document .none [spaces] = .ok messages ∧
        Lint.mended document.text messages = ['a', '\r', '\n', '\n', 'b'] ∧
        Lint.run ⟨Lint.mended document.text messages, none⟩ .none [spaces] = .ok [] := by
  intro document spaces
  have hpaired : ReturnsPaired document.text := by
    intro i hi
    have hlt : i < 9 := (List.getElem?_eq_some_iff.mp hi).1
    interval_cases i <;> first | rfl | exact absurd hi (by decide)
  have hon : Severity.ofConfig (.bool true) = .ok .error := rfl
  obtain ⟨messages, hrun, -, hclean, -⟩ := run_mended "spaces" hpaired hon
  refine ⟨hpaired, messages, hrun, ?_, hclean⟩
  have hmessages := hrun.symm.trans (run_eq hon (by decide))
  rw [Except.ok.inj hmessages, mended_flagged]
  decide

end TrailingSpaces

end ProseLinter
