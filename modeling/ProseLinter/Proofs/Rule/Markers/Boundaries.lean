import ProseLinter.Proofs.Rule.Markers

/-!
# Proofs/Rule/Markers/Boundaries — where a marker is found at one place

Whether a marker is found at a place depends on two characters besides its own: the one before it
and the one behind it.  So an occurrence is told by what `fits` on both sides (`StandsAt`), and the
search looks for the places where a marker stands **between boundaries**
(`isSome_extent?_iff_standsAt`).  What is found there uses up the marker, and a colon behind it
(`take_of_extent?`).  So one step of the search is told in these terms (`occurrences_step`), and what
it finds are markers between boundaries, some of them if there are any
(`occurrences_ne_nil_iff`).
-/

namespace ProseLinter.Markers

variable {words : List (List Char)} {before : Option Char} {cs w : List Char} {c : Char} {k n : ℕ}
  {fits : Option Char → Option Char → Prop}

theorem lastOr_cons (before : Option Char) (c : Char) (u : List Char) :
    lastOr before (c :: u) = lastOr (some c) u := by
  cases u with
  | nil => rfl
  | cons d u =>
    rw [lastOr, lastOr, List.getLast?_cons_cons, List.getLast?_eq_some_getLast (by simp)]

/-- The last character of a text does not depend on what stands before it, if there is one. -/
theorem lastOr_of_ne_nil (hw : w ≠ []) (before : Option Char) : lastOr before w = w.getLast? := by
  rw [lastOr, List.getLast?_eq_some_getLast hw]

/-! ## Where a text stands in another one -/

/-- **A text stands at an offset** of a text that follows the character `before`, and the characters
right before it and right behind it fit. -/
def StandsAt (fits : Option Char → Option Char → Prop) (before : Option Char) (cs : List Char)
    (i : ℕ) (w : List Char) : Prop :=
  ∃ u v, cs = u ++ w ++ v ∧ u.length = i ∧ fits (lastOr before u) v.head?

/-- Where a text stands at the front… -/
theorem standsAt_zero_iff :
    StandsAt fits before cs 0 w ↔ ∃ v, cs = w ++ v ∧ fits before v.head? := by
  constructor
  · rintro ⟨u, v, rfl, hu, hfits⟩
    obtain rfl := List.length_eq_zero_iff.mp hu
    exact ⟨v, rfl, hfits⟩
  · rintro ⟨v, rfl, hfits⟩
    exact ⟨[], v, rfl, rfl, hfits⟩

/-- …and further back. -/
theorem standsAt_succ_iff :
    StandsAt fits before (c :: cs) (k + 1) w ↔ StandsAt fits (some c) cs k w := by
  constructor
  · rintro ⟨u, v, hcs, hu, hfits⟩
    obtain ⟨d, u, rfl⟩ := List.exists_cons_of_length_eq_add_one hu
    obtain ⟨rfl, rfl⟩ := List.cons.inj hcs
    rw [lastOr_cons] at hfits
    exact ⟨u, v, rfl, Nat.succ.inj hu, hfits⟩
  · rintro ⟨u, v, rfl, hu, hfits⟩
    exact ⟨c :: u, v, rfl, congrArg Nat.succ hu, by rwa [lastOr_cons]⟩

theorem exists_standsAt_cons_iff :
    (∃ k, StandsAt fits before (c :: cs) k w) ↔
      StandsAt fits before (c :: cs) 0 w ∨ ∃ k, StandsAt fits (some c) cs k w := by
  rw [← Nat.or_exists_add_one]
  exact or_congr Iff.rfl (exists_congr fun k => standsAt_succ_iff)

/-- A text stands at an offset between two characters only. -/
theorem StandsAt.exists_and {fits' : Option Char → Option Char → Prop}
    (h : StandsAt fits before cs k w) (h' : StandsAt fits' before cs k w) :
    ∃ left right, fits left right ∧ fits' left right := by
  obtain ⟨u, v, rfl, hu, hfits⟩ := h
  obtain ⟨u', v', hcs, hu', hfits'⟩ := h'
  obtain ⟨hfront, rfl⟩ := List.append_inj hcs (by simp [hu, hu'])
  obtain ⟨rfl, -⟩ := List.append_inj hfront (hu.trans hu'.symm)
  exact ⟨_, _, hfits, hfits'⟩

theorem not_standsAt_nil (hw : w ≠ []) : ¬StandsAt fits before [] k w := by
  rintro ⟨u, v, hcs, -⟩
  simp [hw] at hcs

/-! ## The search at one place -/

/-- **Between boundaries**: with these characters on both sides of it a text starts and ends at word
boundaries. -/
def IsBounded (w : List Char) (left right : Option Char) : Prop :=
  isBoundary left w.head? = true ∧ isBoundary w.getLast? right = true

/-- **A marker is found where it stands between boundaries.** -/
theorem isSome_extent?_iff_standsAt (hw : w ≠ []) :
    (extent? before cs w).isSome = true ↔ StandsAt (IsBounded w) before cs 0 w := by
  rw [standsAt_zero_iff, extent?]
  by_cases hbegins : w <+: cs
  · obtain ⟨v, rfl⟩ := hbegins
    have hfront : w.isPrefixOf (w ++ v) = true := List.isPrefixOf_iff_prefix.mpr ⟨v, rfl⟩
    have hhead : (w ++ v).head? = w.head? := List.head?_append_of_ne_nil _ hw
    simp only [hfront, hhead, lastOr_of_ne_nil hw, List.drop_left, Bool.and_true, IsBounded,
      List.append_cancel_left_eq]
    split <;> simp_all
  · have hfront : w.isPrefixOf cs = false := by
      rw [Bool.eq_false_iff, ne_eq, List.isPrefixOf_iff_prefix]
      exact hbegins
    rw [hfront, Bool.and_false]
    simp only [Bool.false_eq_true, if_false, Option.isSome_none, false_iff]
    rintro ⟨v, hcs, -⟩
    exact hbegins ⟨v, hcs.symm⟩

/-- **What an occurrence uses up** is the marker, and a colon behind it. -/
theorem take_of_extent? (h : extent? before cs w = some n) :
    cs.take n = w ∨ cs.take n = w ++ [':'] := by
  obtain ⟨v, rfl⟩ := prefix_of_extent? h
  unfold extent? at h
  simp only [List.drop_left] at h
  split at h
  · split at h
    · split at h
      · next hcolon =>
        obtain ⟨v, rfl⟩ := List.head?_eq_some_iff.mp hcolon
        obtain rfl := Option.some.inj h
        exact Or.inr (by simp [List.take_append])
      · obtain rfl := Option.some.inj h
        exact Or.inl List.take_left
    · cases h
  · cases h

/-- A marker takes up its characters, and at most one more. -/
theorem extent?_bounds (h : extent? before cs w = some n) :
    w.length ≤ n ∧ n ≤ w.length + 1 := by
  unfold extent? at h
  split at h
  · simp only at h
    split at h
    · split at h <;> simp at h <;> omega
    · cases h
  · cases h

/-- **The search at one place** finds a marker exactly if one of them stands there between
boundaries. -/
theorem firstAt_cases (hwords : ∀ w ∈ words, w ≠ []) (before : Option Char) (cs : List Char) :
    (∃ w ∈ words, StandsAt (IsBounded w) before cs 0 w ∧
      ∃ n, extent? before cs w = some n ∧ firstAt words 0 before cs = some (w, n)) ∨
    (∀ w ∈ words, ¬StandsAt (IsBounded w) before cs 0 w) ∧ firstAt words 0 before cs = none := by
  cases hfirst : firstAt words 0 before cs with
  | none =>
    refine Or.inr ⟨fun w hw hstands => ?_, rfl⟩
    obtain ⟨n, hn⟩ := Option.isSome_iff_exists.mp
      ((isSome_extent?_iff_standsAt (hwords w hw)).mpr hstands)
    have hnone := List.findSome?_eq_none_iff.mp hfirst w hw
    simp [hn] at hnone
  | some found =>
    obtain ⟨w, hw, hfound⟩ := List.exists_of_findSome?_eq_some hfirst
    cases hn : extent? before cs w with
    | none => simp [hn] at hfound
    | some n =>
      simp only [hn, Nat.zero_le, if_true, Option.some.injEq] at hfound
      subst hfound
      exact Or.inl ⟨w, hw, (isSome_extent?_iff_standsAt (hwords w hw)).mp (by rw [hn]; rfl), n, hn,
        rfl⟩

/-! ## The whole search -/

/-- **One step of the search**: where a marker stands between boundaries it is found, and the search
goes on behind what it uses up; elsewhere the search goes on at the next character. -/
theorem occurrences_step (hwords : ∀ w ∈ words, w ≠ []) (i : ℕ) (before : Option Char) (c : Char)
    (cs : List Char) :
    (∃ w ∈ words, StandsAt (IsBounded w) before (c :: cs) 0 w ∧ ∃ skip,
      extent? before (c :: cs) w = some (skip + 1) ∧
      occurrences words i 0 before (c :: cs) =
        (i, w) :: occurrences words (i + 1) skip (some c) cs) ∨
    (∀ w ∈ words, ¬StandsAt (IsBounded w) before (c :: cs) 0 w) ∧
      occurrences words i 0 before (c :: cs) = occurrences words (i + 1) 0 (some c) cs := by
  rcases firstAt_cases hwords before (c :: cs) with
    ⟨w, hw, hstands, n, hextent, hfirst⟩ | ⟨hnone, hfirst⟩
  · have hpos := List.length_pos_iff.mpr (hwords w hw)
    have hle := (extent?_bounds hextent).1
    obtain ⟨skip, rfl⟩ := Nat.exists_eq_add_one_of_ne_zero (show n ≠ 0 by omega)
    refine Or.inl ⟨w, hw, hstands, skip, hextent, ?_⟩
    rw [occurrences, hfirst]
  · refine Or.inr ⟨hnone, ?_⟩
    rw [occurrences, hfirst]

/-- Where the text ends, no marker is found. -/
theorem occurrences_nil (hwords : ∀ w ∈ words, w ≠ []) (i skip : ℕ) (before : Option Char) :
    occurrences words i skip before [] = [] := by
  rw [occurrences]
  rcases firstAt_cases hwords before [] with ⟨w, hw, hstands, -⟩ | ⟨-, hfirst⟩
  · exact absurd hstands (not_standsAt_nil (hwords w hw))
  · rw [hfirst, ite_self]

/-- **What is found stands between boundaries.** -/
theorem exists_standsAt_of_mem_occurrences (hwords : ∀ w ∈ words, w ≠ []) :
    ∀ {cs : List Char} {i skip : ℕ} {before : Option Char} {hit : ℕ × List Char},
      hit ∈ occurrences words i skip before cs →
        ∃ k, ∃ w ∈ words, hit = (i + k, w) ∧ StandsAt (IsBounded w) before cs k w
  | [], i, skip, before, hit, h => by
      rw [occurrences_nil hwords] at h
      exact absurd h List.not_mem_nil
  | c :: cs, i, skip, before, hit, h => by
      have hlater : ∀ {skip'}, hit ∈ occurrences words (i + 1) skip' (some c) cs →
          ∃ k, ∃ w ∈ words, hit = (i + k, w) ∧ StandsAt (IsBounded w) before (c :: cs) k w :=
        fun h => by
          obtain ⟨k, w, hw, rfl, hk⟩ := exists_standsAt_of_mem_occurrences hwords h
          exact ⟨k + 1, w, hw, by rw [Nat.add_right_comm, Nat.add_assoc], standsAt_succ_iff.mpr hk⟩
      cases skip with
      | succ skip => exact hlater h
      | zero =>
        rcases occurrences_step hwords i before c cs with
          ⟨w, hw, hfound, skip, -, hstep⟩ | ⟨-, hstep⟩
        · rw [hstep] at h
          rcases List.mem_cons.mp h with rfl | h
          exacts [⟨0, w, hw, rfl, hfound⟩, hlater h]
        · rw [hstep] at h
          exact hlater h

/-- **Something is found exactly where a marker stands between boundaries somewhere.** -/
theorem occurrences_ne_nil_iff (hwords : ∀ w ∈ words, w ≠ []) :
    ∀ {cs : List Char} {i : ℕ} {before : Option Char},
      occurrences words i 0 before cs ≠ [] ↔
        ∃ w ∈ words, ∃ k, StandsAt (IsBounded w) before cs k w
  | [], i, before => by
      rw [occurrences_nil hwords]
      refine iff_of_false (not_not.mpr rfl) ?_
      rintro ⟨w, hw, k, h⟩
      exact not_standsAt_nil (hwords w hw) h
  | c :: cs, i, before => by
      rcases occurrences_step hwords i before c cs with
        ⟨w, hw, hfound, skip, -, hstep⟩ | ⟨hnone, hstep⟩
      · rw [hstep]
        exact iff_of_true (List.cons_ne_nil _ _) ⟨w, hw, 0, hfound⟩
      · rw [hstep, occurrences_ne_nil_iff hwords]
        refine exists_congr fun w => and_congr_right fun hw => ?_
        rw [exists_standsAt_cons_iff, or_iff_right (hnone w hw)]

end ProseLinter.Markers
