import ProseLinter.Proofs.LineMap.Position

/-!
# Proofs/LineMap/Feeds — a position counts the line feeds before its offset

A position is looked up in the starts of the lines, which are listed once for the whole text.  It
can also be read off the characters before the offset alone: the line feeds among them are counted,
and the column counts from the last one (`Document.position_eq_counted`).

The two meet where the text is cut at the offset.  The starts fall apart there into those of the
lines begun before it and those further on (`starts_ofText_eq_append`).  They name every line feed
and nothing else (`mem_starts_ofText_iff`), in ascending order, so the last line begun starts just
after the last line feed (`getElem?_starts_count`), and it is the line of the offset
(`onLine_count`).
-/

namespace ProseLinter

namespace LineMap

/-! ## The starts of a text, cut in two -/

theorem startsAfter_append (i : ℕ) (before after : List Char) :
    startsAfter i (before ++ after) =
      startsAfter i before ++ startsAfter (i + before.length) after := by
  induction before generalizing i with
  | nil => rfl
  | cons c cs ih =>
    have hi : i + 1 + cs.length = i + (c :: cs).length := by
      rw [List.length_cons]
      omega
    by_cases hc : c = '\n'
    · rw [List.cons_append, startsAfter, startsAfter, if_pos hc, if_pos hc, ih, hi,
        List.cons_append]
    · rw [List.cons_append, startsAfter, startsAfter, if_neg hc, if_neg hc, ih, hi]

/-- **Cut at an offset**, a text has the starts of what stands before it, and further starts for the
line feeds that follow. -/
theorem starts_ofText_eq_append {text : List Char} {k : ℕ} (hk : k ≤ text.length) :
    (ofText text).starts = (ofText (text.take k)).starts ++ startsAfter k (text.drop k) := by
  have h := startsAfter_append 0 (text.take k) (text.drop k)
  rw [List.take_append_drop, List.length_take_of_le hk, Nat.zero_add] at h
  rw [starts_ofText, starts_ofText, h, List.cons_append]

/-- The starts listed are the offsets just after line feeds, and no line feed is left out. -/
theorem mem_startsAfter_iff {i s : ℕ} {text : List Char} :
    s ∈ startsAfter i text ↔ ∃ m, text[m]? = some '\n' ∧ s = i + m + 1 := by
  induction text generalizing i with
  | nil => simp [startsAfter]
  | cons c cs ih =>
    -- a line feed of `c :: cs` is `c`, at `i`, or one of `cs`, which starts at `i + 1`
    have hcons : (∃ m, (c :: cs)[m]? = some '\n' ∧ s = i + m + 1) ↔
        (c = '\n' ∧ s = i + 1) ∨ ∃ m, cs[m]? = some '\n' ∧ s = i + 1 + m + 1 := by
      constructor
      · rintro ⟨m | m, hm, rfl⟩
        · exact Or.inl ⟨by simpa using hm, rfl⟩
        · exact Or.inr ⟨m, by simpa using hm, by omega⟩
      · rintro (⟨rfl, rfl⟩ | ⟨m, hm, rfl⟩)
        · exact ⟨0, rfl, rfl⟩
        · exact ⟨m + 1, by simpa using hm, by omega⟩
    by_cases hc : c = '\n'
    · rw [startsAfter, if_pos hc, List.mem_cons, ih, hcons]
      simp only [hc, true_and]
    · rw [startsAfter, if_neg hc, ih, hcons]
      simp only [hc, false_and, false_or]

/-- **A line starts at zero or just after a line feed.** -/
theorem mem_starts_ofText_iff {s : ℕ} {text : List Char} :
    s ∈ (ofText text).starts ↔ s = 0 ∨ ∃ m, text[m]? = some '\n' ∧ s = m + 1 := by
  rw [starts_ofText, List.mem_cons, mem_startsAfter_iff]
  simp only [Nat.zero_add]

/-! ## The last line feed -/

/-- **The offset just after the last line feed** of a text, zero if there is none. -/
def afterLastFeed (text : List Char) : ℕ :=
  ((Finset.range text.length).filter fun m => text[m]? = some '\n').sup (· + 1)

theorem afterLastFeed_le_iff {text : List Char} {s : ℕ} :
    afterLastFeed text ≤ s ↔ ∀ m, text[m]? = some '\n' → m < s := by
  simp only [afterLastFeed, Finset.sup_le_iff, Finset.mem_filter, Finset.mem_range]
  exact ⟨fun h m hm => h m ⟨(List.getElem?_eq_some_iff.mp hm).1, hm⟩, fun h m hm => h m hm.2⟩

/-- **The last line of a text starts just after its last line feed.** -/
theorem getElem?_starts_count (text : List Char) :
    (ofText text).starts[text.count '\n']? = some (afterLastFeed text) := by
  have hlt : text.count '\n' < (ofText text).starts.length := by
    rw [length_starts_ofText]
    exact Nat.lt_succ_self _
  have hlast := List.getElem?_eq_getElem hlt
  rw [hlast, Option.some.injEq]
  refine le_antisymm ?_ (afterLastFeed_le_iff.mpr fun m hm => ?_)
  · rcases mem_starts_ofText_iff.mp (List.getElem_mem hlt) with h | ⟨m, hm, h⟩
    · exact h ▸ Nat.zero_le _
    · exact h ▸ afterLastFeed_le_iff.mp le_rfl m hm
  · -- the line after the feed at `m` is listed, and none is listed after the last one
    obtain ⟨l, hl⟩ := List.mem_iff_getElem?.mp (mem_starts_ofText_iff.mpr (Or.inr ⟨m, hm, rfl⟩))
    have hlength := (List.getElem?_eq_some_iff.mp hl).1
    rw [length_starts_ofText] at hlength
    exact (ascending_ofText text).start_le (Nat.le_of_lt_succ hlength) hl hlast

/-! ## The line of an offset, counted -/

/-- **Offset `k` lies on the line that the line feeds before it count**, which starts just after the
last of them. -/
theorem onLine_count {text : List Char} {k : ℕ} (hk : k ≤ text.length) :
    (ofText text).OnLine ((text.take k).count '\n') (afterLastFeed (text.take k)) k := by
  have hbegun := length_starts_ofText (text.take k)
  have hcut := starts_ofText_eq_append hk
  refine ⟨?_, ?_, fun t ht => ?_, hk⟩
  · rw [hcut, List.getElem?_append_left (by omega), getElem?_starts_count]
  · refine afterLastFeed_le_iff.mpr fun m hm => ?_
    have := (List.getElem?_eq_some_iff.mp hm).1
    rw [List.length_take] at this
    omega
  · rw [hcut, List.getElem?_append_right hbegun.le] at ht
    obtain ⟨m, -, rfl⟩ := mem_startsAfter_iff.mp (List.mem_of_getElem? ht)
    omega

end LineMap

namespace Document

open LineMap

/-- **Positions count line feeds, and a later offset has a later position.**  The line is one more
than the number of line feeds among the characters before the offset, which is clamped to the text;
the column counts from the place just after the last of them, or from the start of the text.  On the
offsets of a text this order of positions is strict. -/
theorem position_eq_counted (text : List Char) :
    (∀ i : ℤ,
      let k := (max 0 (min i text.length)).toNat
      position text i =
        ⟨(text.take k).count '\n' + 1, (k : ℤ) - afterLastFeed (text.take k) + 1⟩) ∧
      ∀ i j : ℤ, 0 ≤ i → i < j → j ≤ text.length →
        (position text i).key < (position text j).key := by
  refine ⟨fun i => ?_, fun i j hi hij hj => ?_⟩
  · have hk : (max 0 (min i text.length)).toNat = (ofText text).clamp i := by
      rw [clamp, length_ofText]
      omega
    simp only [hk]
    rw [position, ← position_clamp,
      (onLine_count ((ofText text).clamp_le_length i)).position_eq (ascending_ofText text)]
  · refine key_position_lt (ascending_ofText text) ?_
    rw [clamp, clamp, length_ofText]
    omega

/-- At a line feed, after it, and beyond the end of a text that a line feed ends. -/
theorem position_counted_feeds :
    let text := ['a', 'b', '\n', '\n', 'c', '\n']
    (position text 2 = ⟨1, 3⟩ ∧ position text 3 = ⟨2, 1⟩ ∧ position text 99 = ⟨4, 1⟩ ∧
      position text (-1) = ⟨1, 1⟩) ∧
      ((0 : ℤ) ≤ 2 ∧ (2 : ℤ) < 3 ∧ (3 : ℤ) ≤ text.length) ∧
      (position text 2).key < (position text 3).key := by
  intro text
  obtain ⟨hcounted, hlt⟩ := position_eq_counted text
  have hbounds : (0 : ℤ) ≤ 2 ∧ (2 : ℤ) < 3 ∧ (3 : ℤ) ≤ text.length := by decide
  refine ⟨⟨(hcounted 2).trans ?_, (hcounted 3).trans ?_, (hcounted 99).trans ?_,
    (hcounted (-1)).trans ?_⟩, hbounds, hlt 2 3 hbounds.1 hbounds.2.1 hbounds.2.2⟩ <;> decide

end Document

end ProseLinter
