import Mathlib
import ProseLinter.Text.Utf8

/-!
# Proofs/Text/LineBreaks — offsets before and after line breaks are made one

`lineFeeds` makes one character of each carriage return with a line feed after it, so offsets behind
such a **pair** come out smaller, by one for each pair that stands before them
(`length_lineFeeds_add_returnPairs`).  What is no line break stays, and is found again in the text
that was given (`exists_append_of_lineFeeds_eq`).
-/

namespace ProseLinter.Text

variable {cs run rest : List Char} {c : Char}

/-- How many line feeds of a text come right after a carriage return. -/
def returnPairs : List Char → ℕ
  | '\r' :: '\n' :: cs => returnPairs cs + 1
  | _ :: cs => returnPairs cs
  | [] => 0

theorem returnPairs_cons (hc : c ≠ '\r') (cs : List Char) :
    returnPairs (c :: cs) = returnPairs cs :=
  returnPairs.eq_2 c cs fun _ h _ => hc h

theorem returnPairs_return_cons (hc : c ≠ '\n') (cs : List Char) :
    returnPairs ('\r' :: c :: cs) = returnPairs (c :: cs) :=
  returnPairs.eq_2 '\r' (c :: cs) fun _ _ h => hc (List.cons.inj h).1

/-! ## How much shorter a text becomes -/

/-- A text that comes after a carriage return loses the line feed at its front too. -/
theorem length_lineFeedsFrom_add : ∀ (returned : Bool) (cs : List Char),
    (lineFeedsFrom returned cs).length + returnPairs (if returned then '\r' :: cs else cs) =
      cs.length
  | false, [] => rfl
  | true, [] => rfl
  | false, c :: cs => by
      have hkept := length_lineFeedsFrom_add false cs
      have hreturned := length_lineFeedsFrom_add true cs
      simp only [Bool.false_eq_true, if_false, if_true] at hkept hreturned ⊢
      rw [lineFeedsFrom, List.length_cons]
      by_cases hr : c = '\r'
      · rw [if_pos hr, List.length_cons, hr]
        omega
      · rw [if_neg hr, if_neg (by simp), List.length_cons, returnPairs_cons hr]
        omega
  | true, c :: cs => by
      have hkept := length_lineFeedsFrom_add false cs
      have hreturned := length_lineFeedsFrom_add true cs
      simp only [Bool.false_eq_true, if_false, if_true] at hkept hreturned ⊢
      rw [lineFeedsFrom, List.length_cons]
      by_cases hr : c = '\r'
      · rw [if_pos hr, List.length_cons, hr, returnPairs_return_cons (by decide)]
        omega
      · by_cases hn : c = '\n'
        · rw [if_neg hr, if_pos ⟨hn, rfl⟩, hn, returnPairs]
          omega
        · rw [if_neg hr, if_neg (mt And.left hn), List.length_cons, returnPairs_return_cons hn,
            returnPairs_cons hr]
          omega

/-- **A text becomes shorter by its pairs of carriage return and line feed.** -/
theorem length_lineFeeds_add_returnPairs (cs : List Char) :
    (lineFeeds cs).length + returnPairs cs = cs.length :=
  length_lineFeedsFrom_add false cs

/-! ## What is no line break -/

/-- What becomes of one character. -/
def lineFeedOf (returned : Bool) (c : Char) : List Char :=
  if c = '\r' then ['\n'] else if c = '\n' ∧ returned = true then [] else [c]

theorem lineFeedsFrom_cons (returned : Bool) (c : Char) (cs : List Char) :
    lineFeedsFrom returned (c :: cs) =
      lineFeedOf returned c ++ lineFeedsFrom (decide (c = '\r')) cs := by
  rw [lineFeedsFrom, lineFeedOf]
  by_cases hr : c = '\r'
  · simp [hr]
  · by_cases hn : c = '\n' ∧ returned = true <;> simp [hr, hn]

/-- A character stays, or nothing but line feeds becomes of it. -/
theorem lineFeedOf_eq (returned : Bool) (c : Char) :
    (lineFeedOf returned c = [c] ∧ c ≠ '\r') ∨ lineFeedOf returned c = [] ∨
      lineFeedOf returned c = ['\n'] := by
  unfold lineFeedOf
  split
  · exact Or.inr (Or.inr rfl)
  · next hr =>
    split
    · exact Or.inr (Or.inl rfl)
    · exact Or.inl ⟨rfl, hr⟩

theorem eq_nil_of_lineFeeds_eq_nil : ∀ {cs : List Char}, lineFeeds cs = [] → cs = []
  | [], _ => rfl
  | c :: cs, h => by
      rw [lineFeeds, lineFeedsFrom_cons] at h
      exact absurd (List.append_eq_nil_iff.mp h).1 (by unfold lineFeedOf; split <;> simp)

/-- A character that is no line break was there before, and what stands around it comes from what
stood around it. -/
theorem exists_cons_of_lineFeedsFrom_eq (hc : c ≠ '\n') :
    ∀ {returned : Bool} {cs front : List Char}, lineFeedsFrom returned cs = front ++ c :: rest →
      ∃ before after, cs = before ++ c :: after ∧ lineFeedsFrom returned before = front ∧
        lineFeeds after = rest
  | _, [], front, h => by simp [lineFeedsFrom] at h
  | returned, d :: cs, front, h => by
      rw [lineFeedsFrom_cons] at h
      -- either the character is the first one, or what becomes of the first one stands in front
      have hsplit : (d = c ∧ front = [] ∧ lineFeeds cs = rest) ∨
          ∃ front', front = lineFeedOf returned d ++ front' ∧
            lineFeedsFrom (decide (d = '\r')) cs = front' ++ c :: rest := by
        rcases lineFeedOf_eq returned d with ⟨hd, hr⟩ | hd | hd <;> rw [hd] at h ⊢
        · cases front with
          | nil =>
            obtain ⟨rfl, hcs⟩ := List.cons.inj h
            rw [decide_eq_false hr] at hcs
            exact Or.inl ⟨rfl, rfl, hcs⟩
          | cons f front =>
            obtain ⟨rfl, hcs⟩ := List.cons.inj h
            exact Or.inr ⟨front, rfl, hcs⟩
        · exact Or.inr ⟨front, rfl, h⟩
        · cases front with
          | nil => exact absurd (List.cons.inj h).1.symm hc
          | cons f front =>
            obtain ⟨rfl, hcs⟩ := List.cons.inj h
            exact Or.inr ⟨front, rfl, hcs⟩
      rcases hsplit with ⟨rfl, rfl, hcs⟩ | ⟨front', rfl, hcs⟩
      · exact ⟨[], cs, rfl, rfl, hcs⟩
      · obtain ⟨before, after, rfl, hbefore, hafter⟩ := exists_cons_of_lineFeedsFrom_eq hc hcs
        exact ⟨d :: before, after, rfl, by rw [lineFeedsFrom_cons, hbefore], hafter⟩

/-- A run without line feeds at the front of a text was there before. -/
theorem exists_append_of_lineFeeds_eq : ∀ {run cs : List Char}, '\n' ∉ run →
    lineFeeds cs = run ++ rest → ∃ after, cs = run ++ after ∧ lineFeeds after = rest
  | [], cs, _, h => ⟨cs, rfl, h⟩
  | c :: run, cs, hrun, h => by
      obtain ⟨hc, hrun⟩ := not_or.mp (mt List.mem_cons.mpr hrun)
      obtain ⟨before, after, rfl, hbefore, hafter⟩ :=
        exists_cons_of_lineFeedsFrom_eq (Ne.symm hc) (h.trans (List.nil_append _).symm)
      obtain rfl := eq_nil_of_lineFeeds_eq_nil hbefore
      obtain ⟨after, rfl, hrest⟩ := exists_append_of_lineFeeds_eq hrun hafter
      exact ⟨after, rfl, hrest⟩

/-- **A run without line feeds was there before**, and what stands around it comes from what stood
around it. -/
theorem exists_append_of_lineFeeds_eq_append {run cs front : List Char} (hrun : '\n' ∉ run)
    (hne : run ≠ []) (h : lineFeeds cs = front ++ run ++ rest) :
    ∃ before after, cs = before ++ run ++ after ∧ lineFeeds before = front ∧
      lineFeeds after = rest := by
  obtain ⟨c, run, rfl⟩ := List.exists_cons_of_ne_nil hne
  obtain ⟨hc, hrun⟩ := not_or.mp (mt List.mem_cons.mpr hrun)
  obtain ⟨before, after, rfl, hbefore, hafter⟩ :=
    exists_cons_of_lineFeedsFrom_eq (Ne.symm hc) (h.trans (List.append_assoc _ _ _))
  obtain ⟨after, rfl, hrest⟩ := exists_append_of_lineFeeds_eq hrun hafter
  exact ⟨before, after, by simp, hbefore, hrest⟩

/-- Where a line ends with its breaks made one, it ended before. -/
theorem head?_mem_of_lineFeeds (h : (lineFeeds cs).head? ∈ [none, some '\n', some '\r']) :
    cs.head? ∈ [none, some '\n', some '\r'] := by
  cases cs with
  | nil => simp
  | cons c cs =>
    rw [lineFeeds, lineFeedsFrom_cons] at h
    by_cases hr : c = '\r'
    · simp [hr]
    · rwa [lineFeedOf, if_neg hr, if_neg (by simp)] at h

end ProseLinter.Text
