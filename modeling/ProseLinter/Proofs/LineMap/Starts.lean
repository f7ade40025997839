import Mathlib
import ProseLinter.LineMap
import ProseLinter.Text.Class

/-!
# Proofs/LineMap/Starts — where the rows of a text start

A text cut at its line feeds is a list of **rows**, the last of which no line feed ends.  The line
map of a text is built character by character and never cuts it; `starts_ofText_eq` says that it
lists the row starts all the same.

The bookkeeping is `extent`: with a line feed put at its end, a text *is* its rows with a line feed
after each one (`terminated_eq_flatMap`), so a row starts at the extent of the rows before it.
-/

namespace ProseLinter

namespace LineMap

/-! ## The rows of a text -/

/-- The rows of a text: what stands between its line feeds. -/
abbrev rows (text : List Char) : List (List Char) := Text.splitOn '\n' text

theorem rows_feed (text : List Char) : rows ('\n' :: text) = [] :: rows text := by
  rw [rows, Text.splitOn, if_pos rfl]

/-- Any other character goes to the front of the first row. -/
theorem rows_cons_of_ne {c : Char} (hc : c ≠ '\n') (text : List Char) :
    ∃ r rs, rows text = r :: rs ∧ rows (c :: text) = (c :: r) :: rs := by
  obtain ⟨r, rs, hr⟩ := List.exists_cons_of_ne_nil (Text.splitOn_ne_nil '\n' text)
  exact ⟨r, rs, hr, by rw [rows, Text.splitOn, if_neg hc, hr]⟩

/-- There is one row more than there are line feeds. -/
theorem length_rows (text : List Char) : (rows text).length = text.count '\n' + 1 := by
  induction text with
  | nil => rfl
  | cons c cs ih =>
    by_cases hc : c = '\n'
    · subst hc
      rw [rows_feed, List.length_cons, ih, List.count_cons_self]
    · obtain ⟨r, rs, hr, hcr⟩ := rows_cons_of_ne hc cs
      rw [hcr, List.length_cons, List.count_cons_of_ne hc, ← ih, hr, List.length_cons]

/-- **A text and a line feed are its rows, each with a line feed after it.** -/
theorem terminated_eq_flatMap (text : List Char) :
    text ++ ['\n'] = (rows text).flatMap (· ++ ['\n']) := by
  induction text with
  | nil => rfl
  | cons c cs ih =>
    by_cases hc : c = '\n'
    · subst hc
      rw [rows_feed, List.flatMap_cons, ← ih]
      rfl
    · obtain ⟨r, rs, hr, hcr⟩ := rows_cons_of_ne hc cs
      rw [hcr, List.cons_append, ih, hr]
      rfl

/-- The first row of a text can be told from what follows it. -/
theorem append_feed_inj {r r' x x' : List Char} (hr : '\n' ∉ r) (hr' : '\n' ∉ r')
    (h : r ++ '\n' :: x = r' ++ '\n' :: x') : r = r' ∧ x = x' := by
  rcases List.append_eq_append_iff.mp h with ⟨c, rfl, hc⟩ | ⟨c, rfl, hc⟩ <;>
    rcases List.cons_eq_append_iff.mp hc with ⟨rfl, hx⟩ | ⟨d, rfl, -⟩
  · exact ⟨(List.append_nil r).symm, (List.cons.inj hx).2.symm⟩
  · exact absurd (List.mem_append_right r List.mem_cons_self) hr'
  · exact ⟨List.append_nil r', (List.cons.inj hx).2⟩
  · exact absurd (List.mem_append_right r' List.mem_cons_self) hr

/-- Rows can be told from what they make up, each with a line feed after it. -/
theorem eq_of_flatMap_feed : ∀ {rs rs' : List (List Char)}, (∀ r ∈ rs, '\n' ∉ r) →
    (∀ r ∈ rs', '\n' ∉ r) → rs.flatMap (· ++ ['\n']) = rs'.flatMap (· ++ ['\n']) → rs = rs'
  | [], [], _, _, _ => rfl
  | [], r' :: rs', _, _, h => by simp at h
  | r :: rs, [], _, _, h => by simp at h
  | r :: rs, r' :: rs', hrs, hrs', h => by
      obtain ⟨hr, hrs⟩ := List.forall_mem_cons.mp hrs
      obtain ⟨hr', hrs'⟩ := List.forall_mem_cons.mp hrs'
      simp only [List.flatMap_cons, List.append_assoc, List.singleton_append] at h
      obtain ⟨hrow, hrest⟩ := append_feed_inj hr hr' h
      rw [hrow, eq_of_flatMap_feed hrs hrs' hrest]

/-- **The rows of a text are the only lists without line feeds that make it up.** -/
theorem rows_eq_of_terminated {text : List Char} {rs : List (List Char)}
    (h : text ++ ['\n'] = rs.flatMap (· ++ ['\n'])) (hrs : ∀ r ∈ rs, '\n' ∉ r) :
    rows text = rs :=
  eq_of_flatMap_feed (fun _ hr => Text.sep_not_mem_of_mem_splitOn hr) hrs
    ((terminated_eq_flatMap text).symm.trans h)

/-! ## What rows take up -/

/-- How many characters rows take up, each with the line feed after it. -/
def extent (rs : List (List Char)) : ℕ := (rs.map fun r => r.length + 1).sum

@[simp] theorem extent_nil : extent [] = 0 := rfl

@[simp] theorem extent_cons (r : List Char) (rs : List (List Char)) :
    extent (r :: rs) = r.length + 1 + extent rs := by simp [extent]

@[simp] theorem extent_append (rs rs' : List (List Char)) :
    extent (rs ++ rs') = extent rs + extent rs' := by simp [extent]

theorem length_flatMap_feed (rs : List (List Char)) :
    (rs.flatMap (· ++ ['\n'])).length = extent rs := by
  simp [List.length_flatMap, extent]

/-- The rows take up the text and one character more: no line feed ends the last one. -/
theorem extent_rows (text : List Char) : extent (rows text) = text.length + 1 := by
  rw [← length_flatMap_feed, ← terminated_eq_flatMap, List.length_append, List.length_singleton]

/-- A row takes up its own characters and one more. -/
theorem extent_take_succ : ∀ {rs : List (List Char)} {k : ℕ} {r : List Char}, rs[k]? = some r →
    extent (rs.take (k + 1)) = extent (rs.take k) + r.length + 1
  | [], _, _, h => by simp at h
  | r' :: rs, 0, r, h => by
      obtain rfl : r' = r := by simpa using h
      simp
  | r' :: rs, k + 1, r, h => by
      rw [List.take_succ_cons, List.take_succ_cons, extent_cons, extent_cons,
        extent_take_succ (by simpa using h)]
      omega

theorem extent_take_le : ∀ (rs : List (List Char)) (k : ℕ), extent (rs.take k) ≤ extent rs
  | [], _ => by simp
  | _ :: _, 0 => by simp
  | r :: rs, k + 1 => by
      rw [List.take_succ_cons, extent_cons, extent_cons]
      exact Nat.add_le_add_left (extent_take_le rs k) _

theorem extent_take_mono (rs : List (List Char)) {i j : ℕ} (hij : i ≤ j) :
    extent (rs.take i) ≤ extent (rs.take j) := by
  have h := extent_take_le (rs.take j) i
  rwa [List.take_take, Nat.min_eq_left hij] at h

/-- A row ends before the text does, or with it. -/
theorem extent_take_add_length_le {text r : List Char} {k : ℕ} (h : (rows text)[k]? = some r) :
    extent ((rows text).take k) + r.length ≤ text.length := by
  have hle := extent_take_le (rows text) (k + 1)
  rw [extent_take_succ h, extent_rows] at hle
  omega

/-! ## The row starts -/

/-- The offsets at which rows start that follow each other from offset `s` on. -/
def rowStarts (s : ℕ) : List (List Char) → List ℕ
  | [] => []
  | r :: rs => s :: rowStarts (s + r.length + 1) rs

theorem length_rowStarts : ∀ (s : ℕ) (rs : List (List Char)), (rowStarts s rs).length = rs.length
  | _, [] => rfl
  | s, r :: rs => by
      rw [rowStarts, List.length_cons, List.length_cons, length_rowStarts (s + r.length + 1) rs]

theorem getElem?_rowStarts : ∀ (s : ℕ) (rs : List (List Char)) (k : ℕ),
    (rowStarts s rs)[k]? = rs[k]?.map fun _ => s + extent (rs.take k)
  | _, [], _ => by simp [rowStarts]
  | _, _ :: _, 0 => by simp [rowStarts]
  | s, r :: rs, k + 1 => by
      rw [rowStarts, List.getElem?_cons_succ, List.getElem?_cons_succ, List.take_succ_cons,
        extent_cons, getElem?_rowStarts (s + r.length + 1) rs k]
      exact congrArg (fun f => rs[k]?.map f) (funext fun _ => by omega)

/-- Row starts count up: each lies at the first one or after it. -/
theorem le_of_mem_rowStarts : ∀ {s a : ℕ} {rs : List (List Char)}, a ∈ rowStarts s rs → s ≤ a
  | _, _, [], h => absurd h (by simp [rowStarts])
  | s, a, r :: rs, h => by
      rcases List.mem_cons.mp h with rfl | h
      · exact Nat.le_refl a
      · have := le_of_mem_rowStarts h
        omega

theorem pairwise_rowStarts : ∀ (s : ℕ) (rs : List (List Char)),
    (rowStarts s rs).Pairwise (· < ·)
  | _, [] => List.Pairwise.nil
  | s, r :: rs => by
      refine List.pairwise_cons.mpr ⟨fun a ha => ?_, pairwise_rowStarts _ rs⟩
      have := le_of_mem_rowStarts ha
      omega

/-- A text's line map lists what `rowStarts` counts: the two see the same line feeds. -/
theorem rowStarts_rows (i : ℕ) (text : List Char) :
    rowStarts i (rows text) = i :: startsAfter i text := by
  induction text generalizing i with
  | nil => rfl
  | cons c cs ih =>
    by_cases hc : c = '\n'
    · subst hc
      rw [rows_feed, startsAfter, if_pos rfl, rowStarts, ← ih]
      rfl
    · -- the first row grows by one character, so the rows after it start one later
      obtain ⟨r, rs, hr, hcr⟩ := rows_cons_of_ne hc cs
      have hi := ih (i + 1)
      rw [hr, rowStarts, List.cons.injEq] at hi
      rw [hcr, startsAfter, if_neg hc, rowStarts, ← hi.2, List.length_cons,
        show i + (r.length + 1) + 1 = i + 1 + r.length + 1 by omega]

/-- **The line map of a text lists the starts of its rows.** -/
theorem starts_ofText_eq (text : List Char) : (ofText text).starts = rowStarts 0 (rows text) :=
  (rowStarts_rows 0 text).symm

/-- There is one start more than there are line feeds. -/
theorem length_starts_ofText (text : List Char) :
    (ofText text).starts.length = text.count '\n' + 1 := by
  rw [starts_ofText_eq, length_rowStarts, length_rows]

/-- **A row starts at the extent of the rows before it.** -/
theorem getElem?_starts_ofText (text : List Char) (k : ℕ) :
    (ofText text).starts[k]? = (rows text)[k]?.map fun _ => extent ((rows text).take k) := by
  rw [starts_ofText_eq, getElem?_rowStarts]
  exact congrArg (fun f => (rows text)[k]?.map f) (funext fun _ => Nat.zero_add _)

end LineMap

end ProseLinter
