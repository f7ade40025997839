import ProseLinter.Document
import ProseLinter.Proofs.LineMap.Starts

/-!
# Proofs/LineMap/Position — offsets and positions are two names of one place

An offset lies on exactly one line of a line map whose starts ascend (`exists_onLine`), and its
position is that line and its distance from the line's start (`OnLine.position_eq`).  Hence:

* `Document.position_inverse_offset` — the offset of a position of an offset is that offset, clamped
  to the text, and the positions that the conversions keep are exactly those inside the text;
* `LineMap.key_position_le_iff` — positions are ordered as the clamped offsets are.

On a text the line of an offset is a row (`onLine_ofText_iff`): the offset is one of the row's
characters or the end of the row.
-/

namespace ProseLinter

namespace LineMap

/-! ## The line of an offset -/

/-- What the conversions need of a line map: its starts begin at zero and ascend. -/
structure Ascending (m : LineMap) : Prop where
  first : m.starts[0]? = some 0
  pairwise : m.starts.Pairwise (· < ·)

theorem ascending_ofText (text : List Char) : (ofText text).Ascending where
  first := rfl
  pairwise := by
    rw [starts_ofText_eq]
    exact pairwise_rowStarts 0 (rows text)

/-- A later line does not start before an earlier one. -/
theorem Ascending.start_le {m : LineMap} (hm : m.Ascending) {i j s t : ℕ} (hij : i ≤ j)
    (hs : m.starts[i]? = some s) (ht : m.starts[j]? = some t) : s ≤ t := by
  obtain ⟨hi, rfl⟩ := List.getElem?_eq_some_iff.mp hs
  obtain ⟨hj, rfl⟩ := List.getElem?_eq_some_iff.mp ht
  rcases Nat.lt_or_eq_of_le hij with hlt | rfl
  · exact Nat.le_of_lt (List.pairwise_iff_getElem.mp hm.pairwise _ _ hi hj hlt)
  · exact Nat.le_refl _

/-- **Offset `k` lies on line `l`**, counted from zero, which starts at `s`. -/
structure OnLine (m : LineMap) (l s k : ℕ) : Prop where
  starts : m.starts[l]? = some s
  start_le : s ≤ k
  lt_next : ∀ t, m.starts[l + 1]? = some t → k < t
  le_length : k ≤ m.length

/-- A number that is not below the head of a list lies between two neighbours, or after the last
one. -/
theorem exists_between_neighbours {k : ℕ} : ∀ {a : ℕ} (as : List ℕ), a ≤ k →
    ∃ l s, (a :: as)[l]? = some s ∧ s ≤ k ∧ ∀ t, (a :: as)[l + 1]? = some t → k < t
  | a, [], h => ⟨0, a, rfl, h, fun t ht => by simp at ht⟩
  | a, b :: as, h => by
      by_cases hb : b ≤ k
      · obtain ⟨l, s, hs, hsk, hnext⟩ := exists_between_neighbours as hb
        exact ⟨l + 1, s, by simpa using hs, hsk, by simpa using hnext⟩
      · refine ⟨0, a, rfl, h, fun t ht => ?_⟩
        obtain rfl : b = t := by simpa using ht
        omega

/-- **Every offset of the text lies on some line.** -/
theorem exists_onLine {m : LineMap} (hm : m.Ascending) {k : ℕ} (hk : k ≤ m.length) :
    ∃ l s, m.OnLine l s k := by
  have hfirst := hm.first
  cases hstarts : m.starts with
  | nil => simp [hstarts] at hfirst
  | cons a as =>
    obtain rfl : a = 0 := by simpa [hstarts] using hfirst
    obtain ⟨l, s, hs, hsk, hnext⟩ := exists_between_neighbours as (Nat.zero_le k)
    exact ⟨l, s, hstarts ▸ hs, hsk, hstarts ▸ hnext, hk⟩

/-- In an ascending list, the numbers up to `k` are those up to the one that `k` follows. -/
theorem takeWhile_le_eq_take : ∀ {as : List ℕ} {l s k : ℕ}, as.Pairwise (· < ·) →
    as[l]? = some s → s ≤ k → (∀ t, as[l + 1]? = some t → k < t) →
      as.takeWhile (· ≤ k) = as.take (l + 1)
  | [], _, _, _, _, hs, _, _ => by simp at hs
  | [a], 0, s, k, _, hs, hsk, _ => by
      obtain rfl : a = s := by simpa using hs
      simp [hsk]
  | a :: b :: as, 0, s, k, _, hs, hsk, hnext => by
      obtain rfl : a = s := by simpa using hs
      have hb : k < b := hnext b (by simp)
      simp [hsk, hb]
  | a :: as, l + 1, s, k, hp, hs, hsk, hnext => by
      obtain ⟨ha, hp⟩ := List.pairwise_cons.mp hp
      rw [List.getElem?_cons_succ] at hs
      have hak : a ≤ k := Nat.le_trans (Nat.le_of_lt (ha s (List.mem_of_getElem? hs))) hsk
      rw [List.takeWhile_cons_of_pos (by simpa using hak), List.take_succ_cons,
        takeWhile_le_eq_take hp hs hsk (by simpa using hnext)]

theorem clamp_of_le {m : LineMap} {k : ℕ} (hk : k ≤ m.length) : m.clamp k = k := by
  unfold clamp
  omega

/-- **The position of an offset is its line and its distance from the start of the line.** -/
theorem OnLine.position_eq {m : LineMap} (hm : m.Ascending) {l s k : ℕ} (h : m.OnLine l s k) :
    m.position k = ⟨l + 1, k - s + 1⟩ := by
  have hlt : l + 1 ≤ m.starts.length := (List.getElem?_eq_some_iff.mp h.starts).1
  have hbegun : m.starts.takeWhile (· ≤ k) = m.starts.take (l + 1) :=
    takeWhile_le_eq_take hm.pairwise h.starts h.start_le h.lt_next
  have hlast : (m.starts.take (l + 1)).getLast? = some s := by
    rw [List.getLast?_eq_getElem?, List.length_take, Nat.min_eq_left hlt, Nat.add_sub_cancel,
      List.getElem?_take_of_lt (Nat.lt_succ_self l), h.starts]
  simp only [position, clamp_of_le h.le_length, hbegun, hlast, List.length_take,
    Nat.min_eq_left hlt]
  rfl

/-- An offset has the position of the place in the text that it stands for. -/
theorem position_clamp (m : LineMap) (i : ℤ) : m.position (m.clamp i) = m.position i := by
  simp only [position, clamp_of_le (m.clamp_le_length i)]

/-- The offset of a column on an existing line counts from the start of that line. -/
theorem offset_eq {m : LineMap} {l s : ℕ} (hs : m.starts[l]? = some s) {c : ℤ} (hc : 1 ≤ c) :
    m.offset ⟨l + 1, c⟩ = s + (c - 1) := by
  have hlt : l < m.starts.length := (List.getElem?_eq_some_iff.mp hs).1
  have hl : (max 0 (min ((l : ℤ) + 1 - 1) ((m.starts.length : ℤ) - 1))).toNat = l := by omega
  have hc' : max 0 (c - 1) = c - 1 := by omega
  simp only [offset, hl, hs, hc', Option.getD_some]

/-- **Back to the offset**: the position of an offset stands for that offset, clamped. -/
theorem offset_position {m : LineMap} (hm : m.Ascending) (i : ℤ) :
    m.offset (m.position i) = m.clamp i := by
  obtain ⟨l, s, h⟩ := exists_onLine hm (m.clamp_le_length i)
  have := h.start_le
  rw [← position_clamp, h.position_eq hm, offset_eq h.starts (by omega)]
  omega

/-- **Back to the position**, from an offset on the line that the position names. -/
theorem OnLine.position_offset {m : LineMap} (hm : m.Ascending) {l s : ℕ} {c : ℤ} (hc : 1 ≤ c)
    (h : m.OnLine l s (s + (c - 1).toNat)) : m.position (m.offset ⟨l + 1, c⟩) = ⟨l + 1, c⟩ := by
  have hk : m.offset ⟨l + 1, c⟩ = (s + (c - 1).toNat : ℕ) := by
    rw [offset_eq h.starts hc]
    omega
  rw [hk, h.position_eq hm, Position.mk.injEq]
  exact ⟨rfl, by omega⟩

/-! ## Positions are ordered as offsets are -/

/-- A later offset lies on a later line, or further on in the same one. -/
theorem OnLine.lt_or_eq {m : LineMap} (hm : m.Ascending) {l s j l' s' k : ℕ}
    (h : m.OnLine l s j) (h' : m.OnLine l' s' k) (hjk : j < k) : l < l' ∨ l = l' ∧ s = s' := by
  rcases Nat.lt_trichotomy l l' with hl | rfl | hl
  · exact Or.inl hl
  · exact Or.inr ⟨rfl, Option.some.inj (h.starts.symm.trans h'.starts)⟩
  · -- the line after `l'` has started by `s`, so `k` would lie before `j`
    exfalso
    have hlength := (List.getElem?_eq_some_iff.mp h.starts).1
    have hnext := List.getElem?_eq_getElem (show l' + 1 < m.starts.length by omega)
    have hle := hm.start_le hl hnext h.starts
    have hlt := h'.lt_next _ hnext
    have := h.start_le
    omega

end LineMap

/-- Positions compare by line, then by column. -/
def Position.key (p : Position) : ℤ ×ₗ ℤ := toLex (p.line, p.column)

namespace LineMap

theorem key_position_lt {m : LineMap} (hm : m.Ascending) {i j : ℤ} (h : m.clamp i < m.clamp j) :
    (m.position i).key < (m.position j).key := by
  obtain ⟨l, s, hi⟩ := exists_onLine hm (m.clamp_le_length i)
  obtain ⟨l', s', hj⟩ := exists_onLine hm (m.clamp_le_length j)
  rw [← m.position_clamp i, ← m.position_clamp j, hi.position_eq hm, hj.position_eq hm]
  refine Prod.Lex.toLex_lt_toLex.mpr ?_
  rcases hi.lt_or_eq hm hj h with hl | ⟨rfl, rfl⟩
  · exact Or.inl (by simpa using hl)
  · exact Or.inr ⟨rfl, by simpa using h⟩

/-- **Positions are ordered as the clamped offsets are.** -/
theorem key_position_le_iff {m : LineMap} (hm : m.Ascending) {i j : ℤ} :
    (m.position i).key ≤ (m.position j).key ↔ m.clamp i ≤ m.clamp j := by
  rcases Nat.lt_trichotomy (m.clamp i) (m.clamp j) with h | h | h
  · exact iff_of_true (key_position_lt hm h).le h.le
  · rw [← m.position_clamp i, ← m.position_clamp j, h]
    exact iff_of_true le_rfl le_rfl
  · exact iff_of_false (key_position_lt hm h).not_ge h.not_ge

theorem key_position_lt_iff {m : LineMap} (hm : m.Ascending) {i j : ℤ} :
    (m.position i).key < (m.position j).key ↔ m.clamp i < m.clamp j := by
  rw [← not_le, key_position_le_iff hm, not_le]

theorem key_position_eq_iff {m : LineMap} (hm : m.Ascending) {i j : ℤ} :
    (m.position i).key = (m.position j).key ↔ m.clamp i = m.clamp j := by
  rw [le_antisymm_iff, key_position_le_iff hm, key_position_le_iff hm, ← le_antisymm_iff]

/-! ## The lines of a text -/

/-- **A line of a text is a row**: the offsets on it are its characters and its end. -/
theorem onLine_ofText_iff {text : List Char} {l s k : ℕ} :
    (ofText text).OnLine l s k ↔
      ∃ r, (rows text)[l]? = some r ∧ s = extent ((rows text).take l) ∧ s ≤ k ∧
        k ≤ s + r.length := by
  constructor
  · intro h
    have hs := h.starts
    rw [getElem?_starts_ofText] at hs
    obtain ⟨r, hr, rfl⟩ := Option.map_eq_some_iff.mp hs
    refine ⟨r, hr, rfl, h.start_le, ?_⟩
    have hsucc := extent_take_succ hr
    cases hnext : (rows text)[l + 1]? with
    | some r' =>
      have := h.lt_next (extent ((rows text).take (l + 1)))
        (by rw [getElem?_starts_ofText, hnext]; rfl)
      omega
    | none =>
      rw [List.take_of_length_le (List.getElem?_eq_none_iff.mp hnext), extent_rows] at hsucc
      have hk : k ≤ text.length := h.le_length
      omega
  · rintro ⟨r, hr, rfl, hsk, hk⟩
    refine ⟨by rw [getElem?_starts_ofText, hr]; rfl, hsk, fun t ht => ?_, ?_⟩
    · rw [getElem?_starts_ofText] at ht
      obtain ⟨_, _, rfl⟩ := Option.map_eq_some_iff.mp ht
      rw [extent_take_succ hr]
      omega
    · exact hk.trans (extent_take_add_length_le hr)

end LineMap

namespace Position

/-- The last column of a line of a text: that of its line feed, or one past the last line. -/
def lastColumn (text : List Char) (line : ℤ) : ℤ :=
  ((LineMap.rows text)[(line - 1).toNat]?.getD []).length + 1

/-- **The positions inside a text**: an existing line and one of its columns. -/
structure InText (text : List Char) (p : Position) : Prop where
  one_le_line : 1 ≤ p.line
  line_le : p.line ≤ text.count '\n' + 1
  one_le_column : 1 ≤ p.column
  column_le : p.column ≤ lastColumn text p.line

theorem inText_iff {text : List Char} {p : Position} :
    p.InText text ↔ ∃ (l : ℕ) (r : List Char), p.line = l + 1 ∧ (LineMap.rows text)[l]? = some r ∧
      1 ≤ p.column ∧ p.column ≤ r.length + 1 := by
  constructor
  · rintro ⟨hl, hle, hc, hcle⟩
    have hlt : (p.line - 1).toNat < (LineMap.rows text).length := by
      rw [LineMap.length_rows]
      omega
    rw [lastColumn, List.getElem?_eq_getElem hlt, Option.getD_some] at hcle
    exact ⟨(p.line - 1).toNat, _, by omega, List.getElem?_eq_getElem hlt, hc, hcle⟩
  · rintro ⟨l, r, hl, hr, hc, hcle⟩
    have hlt := (List.getElem?_eq_some_iff.mp hr).1
    rw [LineMap.length_rows] at hlt
    refine ⟨by omega, by omega, hc, ?_⟩
    rw [lastColumn, hl, Int.add_sub_cancel, Int.toNat_natCast, hr]
    exact hcle

/-- A position inside a text is not further down or to the right than the text has characters. -/
theorem InText.le_length {text : List Char} {p : Position} (h : p.InText text) :
    p.line ≤ text.length + 1 ∧ p.column ≤ text.length + 1 := by
  obtain ⟨l, r, -, hr, -, hcolumn⟩ := inText_iff.mp h
  have hrow := LineMap.extent_take_add_length_le hr
  have hfeeds : text.count '\n' ≤ text.length := List.count_le_length
  have hline := h.line_le
  omega

end Position

namespace Document

open LineMap

/-- The position of an offset lies inside the text. -/
theorem inText_position (text : List Char) (i : ℤ) : (position text i).InText text := by
  obtain ⟨l, s, h⟩ := exists_onLine (ascending_ofText text) ((ofText text).clamp_le_length i)
  obtain ⟨r, hr, -, hsk, hk⟩ := onLine_ofText_iff.mp h
  rw [position, ← position_clamp, h.position_eq (ascending_ofText text)]
  exact Position.inText_iff.mpr ⟨l, r, rfl, hr, by simp only; omega, by simp only; omega⟩

/-- A position inside the text is the position of its offset. -/
theorem position_offset_of_inText {text : List Char} {p : Position} (hp : p.InText text) :
    position text (offset text p) = p := by
  obtain ⟨l, r, hl, hr, hc, hcle⟩ := Position.inText_iff.mp hp
  obtain ⟨line, column⟩ := p
  obtain rfl : line = l + 1 := hl
  have hon : (ofText text).OnLine l (extent ((rows text).take l))
      (extent ((rows text).take l) + (column - 1).toNat) :=
    onLine_ofText_iff.mpr ⟨r, hr, rfl, Nat.le_add_right _ _, by simp only at hc hcle; omega⟩
  exact hon.position_offset (ascending_ofText text) hc

/-- **Offsets and positions are inverse to each other.**  An offset comes back from its position,
clamped to the text; a position comes back from its offset exactly if it lies inside the text. -/
theorem position_inverse_offset (text : List Char) :
    (∀ i : ℤ, offset text (position text i) = max 0 (min i text.length)) ∧
      ∀ p : Position, position text (offset text p) = p ↔ p.InText text := by
  refine ⟨fun i => ?_, fun p => ⟨fun h => ?_, position_offset_of_inText⟩⟩
  · rw [offset, position, offset_position (ascending_ofText text), clamp, length_ofText]
    omega
  · rw [← h]
    exact inText_position text _

end Document

end ProseLinter
