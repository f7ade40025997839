import ProseLinter.Pattern.Glob
import ProseLinter.Proofs.Path
import ProseLinter.Proofs.Pattern.Wildcard

/-!
# Proofs/Pattern/Glob — what the shapes of patterns mean

A pattern with two stars in a row means what the first of its shapes says.  With two stars in front,
it is held against the **tails** of a path, which are the path itself and what follows its slashes
(`matches_inFront_iff`); with two stars on both sides of a name, against the directories on the way
(`matches_around_iff`); with two stars behind a part, it matches all that lies below it
(`matches_behind_iff`).  A pattern without two stars in front, between two parts or behind a part
is a wildcard pattern (`matches_eq_of_isFlat`).
-/

namespace ProseLinter.Glob

variable {part pattern path front tail name rest before after : List Char}

/-! ## The first occurrence of a part -/

theorem append_of_splitFirst? (h : splitFirst? part pattern = some (before, after)) :
    pattern = before ++ part ++ after := by
  induction pattern generalizing before with
  | nil =>
    rw [splitFirst?] at h
    split at h
    · next hpart =>
      cases h
      rw [hpart]
      rfl
    · cases h
  | cons c cs ih =>
    rw [splitFirst?] at h
    split at h
    · next hprefix =>
      obtain ⟨more, hmore⟩ := List.isPrefixOf_iff_prefix.mp hprefix
      cases h
      rw [← hmore, List.drop_left, List.nil_append]
    · obtain ⟨⟨before', after'⟩, hrest, heq⟩ := Option.map_eq_some_iff.mp h
      cases heq
      rw [ih hrest]
      rfl

/-- **A text is cut at a part** exactly if it has the part in it. -/
theorem splitFirst?_eq_none_iff : splitFirst? part pattern = none ↔ ¬ part <:+: pattern := by
  constructor
  · intro h
    induction pattern with
    | nil =>
      rw [splitFirst?] at h
      split at h
      · cases h
      · next hpart => rwa [List.infix_nil]
    | cons c cs ih =>
      rw [splitFirst?] at h
      split at h
      · cases h
      · next hprefix =>
        rw [List.infix_cons_iff, not_or]
        exact ⟨fun hp => hprefix (List.isPrefixOf_iff_prefix.mpr hp),
          ih (Option.map_eq_none_iff.mp h)⟩
  · intro h
    rw [Option.eq_none_iff_forall_ne_some]
    rintro ⟨before, after⟩ hsome
    exact h ⟨before, after, (append_of_splitFirst? hsome).symm⟩

/-! ## The tails of a path -/

/-- **A tail of a path**: the path itself, or what follows one of its slashes. -/
def IsTail (tail path : List Char) : Prop := tail = path ∨ ∃ front, path = front ++ '/' :: tail

/-- Below a directory, a tail of a path is what follows a slash. -/
theorem IsTail.exists_front (h : IsTail tail path) (directory : List Char) :
    ∃ front, directory ++ '/' :: path = front ++ '/' :: tail := by
  rcases h with rfl | ⟨front, rfl⟩
  · exact ⟨directory, rfl⟩
  · exact ⟨directory ++ '/' :: front, by simp⟩

/-- **The ends of a path** that are held against a pattern are its tails. -/
theorem matchesTail_splitOn_iff : matchesTail pattern (Text.splitOn '/' path) = true ↔
    ∃ tail, IsTail tail path ∧ Wildcard.matches pattern tail = true := by
  simp only [matchesTail, List.any_eq_true, mem_suffixes, Bool.and_eq_true, Bool.not_eq_true',
    List.isEmpty_eq_false_iff]
  constructor
  · rintro ⟨parts, ⟨front, heq⟩, hne, h⟩
    refine ⟨_, ?_, h⟩
    have hpath := Text.join_splitOn '/' path
    rw [← heq] at hpath
    by_cases hfront : front = []
    · exact Or.inl (by rw [← hpath, hfront, List.nil_append])
    · rw [Text.join_append hfront hne] at hpath
      exact Or.inr ⟨_, by rw [← hpath, List.append_assoc, List.singleton_append]⟩
  · rintro ⟨tail, hend, h⟩
    refine ⟨Text.splitOn '/' tail, ?_, Text.splitOn_ne_nil '/' tail, by rwa [Text.join_splitOn]⟩
    rcases hend with rfl | ⟨front, rfl⟩
    · exact ⟨[], List.nil_append _⟩
    · exact ⟨_, (Text.splitOn_append_cons front tail).symm⟩

/-! ## Shapes -/

/-- Two stars and a slash in front. -/
def Opens (pattern : List Char) : Prop := "**/".toList <+: pattern

instance : Decidable (Opens pattern) := inferInstanceAs (Decidable (_ <+: _))

/-- A slash and two stars at the end. -/
def Closes (pattern : List Char) : Prop := "/**".toList <:+ pattern

instance : Decidable (Closes pattern) := inferInstanceAs (Decidable (_ <:+ _))

/-- **A pattern without any of the shapes** of two stars. -/
structure IsFlat (pattern : List Char) : Prop where
  not_opens : ¬ Opens pattern
  not_divides : ¬ "/**/".toList <:+: pattern
  not_closes : ¬ Closes pattern

theorem opens_inFront (rest : List Char) : Opens ("**/".toList ++ rest) := List.prefix_append _ _

theorem closes_behind (front : List Char) : Closes (front ++ "/**".toList) :=
  List.suffix_append _ _

theorem Opens.stars (h : Opens pattern) : "**".toList <:+: pattern := by
  obtain ⟨rest, rfl⟩ := h
  exact ⟨[], '/' :: rest, rfl⟩

theorem Closes.stars (h : Closes pattern) : "**".toList <:+: pattern := by
  obtain ⟨front, rfl⟩ := h
  exact ⟨front ++ ['/'], [], by simp⟩

theorem isPrefixOf_eq_true_iff : "**/".toList.isPrefixOf pattern = true ↔ Opens pattern :=
  List.isPrefixOf_iff_prefix

theorem isSuffixOf_eq_true_iff : "/**".toList.isSuffixOf pattern = true ↔ Closes pattern :=
  List.isSuffixOf_iff_suffix

theorem isPrefixOf_eq_false_iff : "**/".toList.isPrefixOf pattern = false ↔ ¬ Opens pattern := by
  rw [← Bool.not_eq_true, List.isPrefixOf_iff_prefix, Opens]

theorem isSuffixOf_eq_false_iff : "/**".toList.isSuffixOf pattern = false ↔ ¬ Closes pattern := by
  rw [← Bool.not_eq_true, List.isSuffixOf_iff_suffix, Closes]

theorem isPrefixOf_slash_iff :
    (front ++ ['/']).isPrefixOf path = true ↔ ∃ rest, path = front ++ '/' :: rest := by
  rw [List.isPrefixOf_iff_prefix]
  exact ⟨fun ⟨rest, h⟩ => ⟨rest, by simpa using h.symm⟩, fun ⟨rest, h⟩ => ⟨rest, by simp [h]⟩⟩

/-- Two stars in a row anywhere make a pattern of some shape. -/
theorem matches_of_stars (h : "**".toList <:+: pattern) :
    Glob.matches pattern path = matchesDoubleStar pattern path := by
  rw [Glob.matches]
  cases hsplit : splitFirst? "**".toList pattern with
  | none => exact absurd h (splitFirst?_eq_none_iff.mp hsplit)
  | some => rfl

/-- **Two stars in front**: some tail of the path matches the rest of the pattern. -/
theorem matches_inFront_iff (h : ¬ Closes ("**/".toList ++ rest)) :
    Glob.matches ("**/".toList ++ rest) path = true ↔
      ∃ tail, IsTail tail path ∧ Wildcard.matches rest tail = true := by
  have hopens := opens_inFront rest
  rw [matches_of_stars hopens.stars, matchesDoubleStar]
  simp only [isPrefixOf_eq_true_iff.mpr hopens, isSuffixOf_eq_false_iff.mpr h, Bool.and_false,
    Bool.false_eq_true, if_false, if_true]
  exact matchesTail_splitOn_iff

/-- What stands between two stars in front and two stars behind. -/
def middle (pattern : List Char) : List Char := (pattern.drop 3).take (pattern.length - 6)

theorem middle_around (name : List Char) :
    middle ("**/".toList ++ name ++ "/**".toList) = name := by
  have hlength : ("**/".toList ++ name ++ "/**".toList).length - 6 = name.length := by simp
  rw [middle, hlength, List.append_assoc]
  exact List.take_left

/-- **Two stars on both sides**: some directory on the way matches what stands between them. -/
theorem matches_around_iff (hopens : Opens pattern) (hcloses : Closes pattern) :
    Glob.matches pattern path = true ↔
      ∃ part ∈ (Text.splitOn '/' path).dropLast, Wildcard.matches (middle pattern) part = true := by
  rw [matches_of_stars hopens.stars, matchesDoubleStar]
  simp only [isPrefixOf_eq_true_iff.mpr hopens, isSuffixOf_eq_true_iff.mpr hcloses, Bool.and_true,
    if_true, List.any_eq_true, middle]

/-- **Two stars behind a part**: the path is the part, or goes on after it. -/
theorem matches_behind_iff (hopens : ¬ Opens (front ++ "/**".toList))
    (hdivides : ¬ "/**/".toList <:+: front ++ "/**".toList) :
    Glob.matches (front ++ "/**".toList) path = true ↔
      path = front ∨ ∃ rest, path = front ++ '/' :: rest := by
  have hcloses := closes_behind front
  have hfront : (front ++ "/**".toList).take ((front ++ "/**".toList).length - 3) = front := by
    have hlength : (front ++ "/**".toList).length - 3 = front.length := by simp
    rw [hlength]
    exact List.take_left
  rw [matches_of_stars hcloses.stars, matchesDoubleStar]
  simp only [isPrefixOf_eq_false_iff.mpr hopens, Bool.false_and, Bool.false_eq_true, if_false,
    splitFirst?_eq_none_iff.mpr hdivides, isSuffixOf_eq_true_iff.mpr hcloses, if_true, hfront,
    Bool.or_eq_true, isPrefixOf_slash_iff, beq_iff_eq]
  exact or_comm

/-- **All other patterns** are wildcard patterns. -/
theorem matches_eq_of_isFlat (h : IsFlat pattern) :
    Glob.matches pattern path = Wildcard.matches pattern path := by
  rw [Glob.matches]
  split
  · rw [matchesDoubleStar]
    simp only [isPrefixOf_eq_false_iff.mpr h.not_opens, Bool.false_and, Bool.false_eq_true,
      if_false, splitFirst?_eq_none_iff.mpr h.not_divides,
      isSuffixOf_eq_false_iff.mpr h.not_closes]
  · rfl

end ProseLinter.Glob
