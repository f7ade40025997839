import Mathlib
import ProseLinter.Pattern.Wildcard

/-!
# Proofs/Pattern/Wildcard — wildcard patterns read and matched piece by piece

A piece of a pattern that opens no bracket is read character by character, whatever follows
(`Wildcard.parse_append`), and elements in a row stand for texts in a row (`Wildcard.run_append`).
So such a piece matches itself (`Wildcard.run_ofChars`), and one without any wildcards nothing else
(`Wildcard.run_ofLiterals_iff`).
-/

namespace ProseLinter.Wildcard

variable {ws vs : List Wildcard} {w : Wildcard} {piece cs : List Char}

/-! ## Reading -/

/-- The element that a character is read as, unless it opens a bracket. -/
def ofChar (c : Char) : Wildcard := if c = '*' then .star else if c = '?' then .any else .char c

/-- **Reading a piece that opens no bracket** goes character by character, and on to the rest. -/
theorem parse_append (h : '[' ∉ piece) (rest : List Char) :
    parse (piece ++ rest) = piece.map ofChar ++ parse rest := by
  induction piece with
  | nil => rfl
  | cons c piece ih =>
    rw [List.mem_cons, not_or] at h
    rw [List.cons_append, parse, ih h.2, List.map_cons, List.cons_append, ofChar]
    split_ifs with hstar hany hbracket
    · rfl
    · rfl
    · exact absurd hbracket.symm h.1
    · rfl

theorem parse_of_not_mem (h : '[' ∉ piece) : parse piece = piece.map ofChar := by
  have happend := parse_append h []
  rwa [List.append_nil, parse, List.append_nil] at happend

/-- A character that stands for itself. -/
def isLiteral (c : Char) : Bool := c != '*' && c != '?' && c != '['

theorem bracket_not_mem_of_all (h : piece.all isLiteral = true) : '[' ∉ piece :=
  fun hmem => absurd (List.all_eq_true.mp h _ hmem) (by decide)

theorem ofChar_of_isLiteral {c : Char} (h : isLiteral c = true) : ofChar c = .char c := by
  simp only [isLiteral, Bool.and_eq_true, bne_iff_ne] at h
  rw [ofChar, if_neg h.1.1, if_neg h.1.2]

theorem map_ofChar_of_all (h : piece.all isLiteral = true) : piece.map ofChar = piece.map .char :=
  List.map_congr_left fun c hc => ofChar_of_isLiteral (List.all_eq_true.mp h c hc)

/-! ## Matching -/

theorem any_ne_star : any ≠ star := nofun

theorem char_ne_star (c : Char) : char c ≠ star := nofun

theorem run_nil_iff : run [] cs = true ↔ cs = [] := by
  cases cs <;> simp [run]

/-- **A star stands for any text** in front of what the rest matches. -/
theorem run_star_iff :
    run (.star :: ws) cs = true ↔ ∃ front rest, front ++ rest = cs ∧ run ws rest = true := by
  simp only [run, List.any_eq_true, mem_suffixes]
  constructor
  · rintro ⟨rest, ⟨front, heq⟩, h⟩
    exact ⟨front, rest, heq, h⟩
  · rintro ⟨front, rest, heq, h⟩
    exact ⟨rest, ⟨front, heq⟩, h⟩

/-- Every other element stands for one character. -/
theorem run_cons_iff (hw : w ≠ star) :
    run (w :: ws) cs = true ↔
      ∃ c rest, c :: rest = cs ∧ w.accepts c = true ∧ run ws rest = true := by
  cases cs <;> cases w <;> simp_all [run]

/-- **Elements in a row** match texts in a row. -/
theorem run_append : run (ws ++ vs) cs = true ↔
    ∃ front rest, front ++ rest = cs ∧ run ws front = true ∧ run vs rest = true := by
  induction ws generalizing cs with
  | nil =>
    simp only [List.nil_append, run_nil_iff]
    exact ⟨fun h => ⟨[], cs, rfl, rfl, h⟩, fun ⟨_, _, heq, hnil, h⟩ => by
      rwa [← heq, hnil, List.nil_append]⟩
  | cons w ws ih =>
    rw [List.cons_append]
    by_cases hw : w = star
    · subst hw
      simp only [run_star_iff, ih]
      constructor
      · rintro ⟨skip, _, rfl, front, rest, rfl, hfront, hrest⟩
        exact ⟨skip ++ front, rest, List.append_assoc .., ⟨skip, front, rfl, hfront⟩, hrest⟩
      · rintro ⟨_, rest, rfl, ⟨skip, front, rfl, hfront⟩, hrest⟩
        exact ⟨skip, front ++ rest, (List.append_assoc ..).symm, front, rest, rfl, hfront, hrest⟩
    · simp only [run_cons_iff hw, ih]
      constructor
      · rintro ⟨c, _, rfl, hc, front, rest, rfl, hfront, hrest⟩
        exact ⟨c :: front, rest, rfl, ⟨c, front, rfl, hc, hfront⟩, hrest⟩
      · rintro ⟨_, rest, rfl, ⟨c, front, rfl, hc, hfront⟩, hrest⟩
        exact ⟨c, front ++ rest, rfl, hc, front, rest, rfl, hfront, hrest⟩

/-- **A piece that opens no bracket matches itself.** -/
theorem run_ofChars (cs : List Char) : run (cs.map ofChar) cs = true := by
  induction cs with
  | nil => rfl
  | cons c cs ih =>
    rw [List.map_cons, ofChar]
    split_ifs
    · exact run_star_iff.mpr ⟨[c], cs, rfl, ih⟩
    · exact (run_cons_iff any_ne_star).mpr ⟨c, cs, rfl, rfl, ih⟩
    · exact (run_cons_iff (char_ne_star c)).mpr ⟨c, cs, rfl, beq_self_eq_true c, ih⟩

/-- **A piece without wildcards matches nothing else.** -/
theorem run_ofLiterals_iff : run (piece.map .char) cs = true ↔ cs = piece := by
  induction piece generalizing cs with
  | nil => exact run_nil_iff
  | cons c piece ih =>
    rw [List.map_cons, run_cons_iff (char_ne_star c)]
    simp only [ih, accepts, beq_iff_eq]
    exact ⟨fun ⟨_, _, heq, hc, hrest⟩ => by rw [← heq, hc, hrest],
      fun h => ⟨c, piece, h.symm, rfl, rfl⟩⟩

/-! ## Patterns of one piece and a star -/

theorem matches_literal_iff (h : piece.all isLiteral = true) :
    Wildcard.matches piece cs = true ↔ cs = piece := by
  rw [matches_eq_run, parse_of_not_mem (bracket_not_mem_of_all h), map_ofChar_of_all h,
    run_ofLiterals_iff]

/-- A star and a piece match the texts that end in the piece… -/
theorem matches_star_literal_iff (h : piece.all isLiteral = true) :
    Wildcard.matches ('*' :: piece) cs = true ↔ piece <:+ cs := by
  rw [matches_eq_run, parse, if_pos rfl, parse_of_not_mem (bracket_not_mem_of_all h),
    map_ofChar_of_all h, run_star_iff]
  simp only [run_ofLiterals_iff]
  constructor
  · rintro ⟨front, _, heq, rfl⟩
    exact ⟨front, heq⟩
  · rintro ⟨front, heq⟩
    exact ⟨front, piece, heq, rfl⟩

/-- …and a piece and a star those that begin with it. -/
theorem matches_literal_star_iff (h : piece.all isLiteral = true) :
    Wildcard.matches (piece ++ ['*']) cs = true ↔ piece <+: cs := by
  have hstar : parse ['*'] = [.star] := by rw [parse, if_pos rfl, parse]
  rw [matches_eq_run, parse_append (bracket_not_mem_of_all h), map_ofChar_of_all h, hstar,
    run_append]
  simp only [run_ofLiterals_iff]
  constructor
  · rintro ⟨_, rest, heq, rfl, -⟩
    exact ⟨rest, heq⟩
  · rintro ⟨rest, heq⟩
    exact ⟨piece, rest, heq, rfl, run_star_iff.mpr ⟨rest, [], List.append_nil rest, rfl⟩⟩

end ProseLinter.Wildcard
