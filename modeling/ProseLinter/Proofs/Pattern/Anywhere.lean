import ProseLinter.Proofs.Pattern.Glob

/-!
# Proofs/Pattern/Anywhere — patterns with two stars in front

A pattern with two stars and a slash in front matches what it matches in every directory as well
(`matches_anywhere_below`).  What the pattern itself matches is not lost by putting them there, as
long as the pattern has no shape of two stars of its own, or its own two stars stand for at least
one directory (`matches_anywhere`).
-/

namespace ProseLinter

variable {piece rest front between cs ds tail path pattern name : List Char}

/-! ## Pieces that match -/

namespace Wildcard

/-- What a piece that opens no bracket matches goes in front of what the rest matches. -/
theorem matches_append (h : '[' ∉ piece) (hpiece : Wildcard.matches piece cs = true)
    (hrest : Wildcard.matches rest ds = true) :
    Wildcard.matches (piece ++ rest) (cs ++ ds) = true := by
  rw [matches_eq_run, parse_of_not_mem h] at hpiece
  rw [matches_eq_run] at hrest
  rw [matches_eq_run, parse_append h, run_append]
  exact ⟨cs, ds, rfl, hpiece, hrest⟩

theorem matches_self (h : '[' ∉ piece) : Wildcard.matches piece piece = true := by
  rw [matches_eq_run, parse_of_not_mem h]
  exact run_ofChars piece

theorem matches_stars (cs : List Char) : Wildcard.matches "**".toList cs = true := by
  have hparse : parse "**".toList = [.star, .star] := parse_of_not_mem (by decide)
  rw [matches_eq_run, hparse]
  exact run_star_iff.mpr ⟨[], cs, rfl, run_star_iff.mpr ⟨cs, [], List.append_nil cs, rfl⟩⟩

/-- **Two stars and a slash** match any text up to a slash. -/
theorem matches_stars_slash (front : List Char) (h : Wildcard.matches rest tail = true) :
    Wildcard.matches ("**/".toList ++ rest) (front ++ '/' :: tail) = true := by
  have hslash : Wildcard.matches ("**".toList ++ ['/']) (front ++ ['/']) = true :=
    matches_append (by decide) (matches_stars front) (matches_self (by decide))
  have happend := matches_append (by decide) hslash h
  rwa [List.append_assoc front] at happend

end Wildcard

namespace Glob

open Wildcard (matches_append matches_self matches_stars matches_stars_slash)

/-! ## Two stars in front -/

/-- **A pattern for any directory**: with two stars and a slash in front. -/
def anywhere (pattern : List Char) : List Char := "**/".toList ++ pattern

theorem opens_anywhere (pattern : List Char) : Opens (anywhere pattern) := opens_inFront pattern

theorem closes_anywhere_iff :
    Closes (anywhere pattern) ↔ Closes pattern ∨ pattern = "**".toList := by
  constructor
  · intro h
    by_cases hlength : 3 ≤ pattern.length
    · exact Or.inl (List.suffix_of_suffix_length_le h (List.suffix_append _ _) hlength)
    · -- two characters at most, of which the pattern has both stars
      match pattern with
      | [] => exact absurd h (by decide)
      | [a] => simp [anywhere, Closes, List.suffix_cons_iff] at h
      | [a, b] =>
        have hboth : '*' = a ∧ '*' = b := by simpa [anywhere, Closes, List.suffix_cons_iff] using h
        exact Or.inr (hboth.1 ▸ hboth.2 ▸ rfl)
      | a :: b :: c :: more => exact absurd (by simp) hlength
  · rintro (h | rfl)
    · exact h.trans (List.suffix_append _ _)
    · decide

/-- Where the pattern is not closed, it is held against the tails of the path. -/
theorem matches_anywhere_iff (h : ¬ Closes (anywhere pattern)) :
    Glob.matches (anywhere pattern) path = true ↔
      ∃ tail, IsTail tail path ∧ Wildcard.matches pattern tail = true :=
  matches_inFront_iff h

/-- **A pattern for any directory** matches below every directory what it matches. -/
theorem matches_anywhere_below (h : Glob.matches (anywhere pattern) path = true)
    (directory : List Char) :
    Glob.matches (anywhere pattern) (directory ++ '/' :: path) = true := by
  by_cases hcloses : Closes (anywhere pattern)
  · rw [matches_around_iff (opens_anywhere pattern) hcloses] at h ⊢
    obtain ⟨part, hpart, hmatches⟩ := h
    refine ⟨part, ?_, hmatches⟩
    rw [Text.splitOn_append_cons, List.dropLast_append_of_ne_nil (Text.splitOn_ne_nil '/' path)]
    exact List.mem_append_right _ hpart
  · rw [matches_anywhere_iff hcloses] at h ⊢
    obtain ⟨tail, htail, hmatches⟩ := h
    exact ⟨tail, Or.inr (htail.exists_front directory), hmatches⟩

/-- **A path is matched in any directory.** -/
def MatchesAnywhere (pattern path : List Char) : Prop :=
  Glob.matches (anywhere pattern) path = true ∧
    ∀ directory, Glob.matches (anywhere pattern) (directory ++ '/' :: path) = true

theorem MatchesAnywhere.of_matches (h : Glob.matches (anywhere pattern) path = true) :
    MatchesAnywhere pattern path :=
  ⟨h, matches_anywhere_below h⟩

/-! ## What a pattern matches is matched in any directory -/

/-- A pattern without shapes of two stars. -/
theorem IsFlat.matchesAnywhere (h : IsFlat pattern) (hne : pattern ≠ "**".toList)
    (hmatches : Glob.matches pattern path = true) : MatchesAnywhere pattern path := by
  refine .of_matches ((matches_anywhere_iff fun hcloses => ?_).mpr ⟨path, Or.inl rfl, ?_⟩)
  · exact (closes_anywhere_iff.mp hcloses).elim h.not_closes hne
  · rwa [← matches_eq_of_isFlat h]

theorem not_closes_anywhere_anywhere (h : ¬ Closes (anywhere rest)) :
    ¬ Closes (anywhere (anywhere rest)) := fun hcloses => by
  rcases closes_anywhere_iff.mp hcloses with hcloses | hstars
  · exact h hcloses
  · have hlength := congrArg List.length hstars
    simp [anywhere] at hlength

/-- Two stars in front that stand for directories. -/
theorem matchesAnywhere_of_inFront (h : ¬ Closes (anywhere rest))
    (hmatches : Wildcard.matches rest tail = true) :
    MatchesAnywhere (anywhere rest) (front ++ '/' :: tail) := by
  refine .of_matches ((matches_anywhere_iff (not_closes_anywhere_anywhere h)).mpr ?_)
  exact ⟨_, Or.inl rfl, matches_stars_slash front hmatches⟩

/-- Two stars between two parts that stand for directories. -/
theorem matchesAnywhere_of_between
    (h : splitFirst? "/**/".toList pattern = some (front, tail)) (hcloses : ¬ Closes pattern)
    (hfront : '[' ∉ front) (hmatches : Wildcard.matches tail rest = true) :
    MatchesAnywhere pattern (front ++ '/' :: (between ++ '/' :: rest)) := by
  obtain rfl := append_of_splitFirst? h
  have hstars : front ++ "/**/".toList ++ tail ≠ "**".toList := fun heq => by
    have hslash : '/' ∈ front ++ "/**/".toList ++ tail := by simp
    rw [heq] at hslash
    exact absurd hslash (by decide)
  refine .of_matches ((matches_anywhere_iff fun h => ?_).mpr ⟨_, Or.inl rfl, ?_⟩)
  · exact (closes_anywhere_iff.mp h).elim hcloses hstars
  · have hslash : Wildcard.matches (front ++ ['/']) (front ++ ['/']) = true :=
      matches_self (by simpa using hfront)
    have happend := matches_append (by simpa using hfront) hslash
      (matches_stars_slash between hmatches)
    simpa using happend

/-- A single name in front of a slash and two stars ends where they begin. -/
theorem eq_stars_of_opens (hslash : '/' ∉ name) (h : Opens (name ++ "/**".toList)) :
    name = "**".toList := by
  match name with
  | [] => exact absurd h (by decide)
  | [a] => simp [Opens] at h
  | [a, b] => simpa [Opens, eq_comm] using h
  | a :: b :: c :: more =>
    simp only [Opens, String.reduceToList, List.cons_append, List.cons_prefix_cons] at h
    exact absurd (h.2.2.1 ▸ by simp) hslash

theorem not_divides_of_not_mem (hslash : '/' ∉ name) :
    ¬ "/**/".toList <:+: name ++ "/**".toList := fun h => by
  have hcount := h.sublist.count_le '/'
  rw [List.count_append, List.count_eq_zero_of_not_mem hslash] at hcount
  exact absurd hcount (by decide)

/-- Two stars behind a single name, on a path below that name. -/
theorem matchesAnywhere_of_behind (hslash : '/' ∉ name) (hbracket : '[' ∉ name)
    (hne : path ≠ name) (hmatches : Glob.matches (name ++ "/**".toList) path = true) :
    MatchesAnywhere (name ++ "/**".toList) path := by
  refine .of_matches ?_
  have hcloses : Closes (anywhere (name ++ "/**".toList)) :=
    closes_anywhere_iff.mpr (Or.inl (closes_behind name))
  have hmiddle : middle (anywhere (name ++ "/**".toList)) = name := by
    rw [anywhere, ← List.append_assoc, middle_around]
  rw [matches_around_iff (opens_anywhere _) hcloses, hmiddle]
  by_cases hopens : Opens (name ++ "/**".toList)
  · -- the name is two stars, which every directory matches
    rw [matches_around_iff hopens (closes_behind name)] at hmatches
    obtain ⟨part, hpart, -⟩ := hmatches
    exact ⟨part, hpart, eq_stars_of_opens hslash hopens ▸ matches_stars part⟩
  · rw [matches_behind_iff hopens (not_divides_of_not_mem hslash)] at hmatches
    obtain ⟨rest, rfl⟩ := hmatches.resolve_left hne
    refine ⟨name, ?_, matches_self hbracket⟩
    rw [Text.splitOn_append_cons, Text.splitOn_of_not_mem hslash,
      List.dropLast_append_of_ne_nil (Text.splitOn_ne_nil '/' rest)]
    exact List.mem_append_left _ List.mem_cons_self

/-! ## The law -/

/-- **Two stars in front lose no match.**  What is matched with them is matched below every
directory.  A path that the pattern itself matches is matched with them, and below every directory,
if the pattern has no shape of two stars; if it is a single name with two stars behind, and the path
is not that name; or if the path has a directory that its two stars stand for. -/
theorem matches_anywhere (pattern path : List Char) :
    (Glob.matches (anywhere pattern) path = true →
      ∀ directory, Glob.matches (anywhere pattern) (directory ++ '/' :: path) = true) ∧
    (Glob.matches pattern path = true →
      (IsFlat pattern → pattern ≠ "**".toList → MatchesAnywhere pattern path) ∧
      (∀ name, pattern = name ++ "/**".toList → '/' ∉ name → '[' ∉ name → path ≠ name →
        MatchesAnywhere pattern path) ∧
      (∀ front tail, splitFirst? "/**/".toList pattern = some (front, tail) → ¬ Closes pattern →
        '[' ∉ front → ∀ between rest, path = front ++ '/' :: (between ++ '/' :: rest) →
          Wildcard.matches tail rest = true → MatchesAnywhere pattern path) ∧
      (∀ rest, pattern = anywhere rest → ¬ Closes pattern →
        (∀ directory, Glob.matches (anywhere pattern) (directory ++ '/' :: path) = true) ∧
        ∀ front tail, path = front ++ '/' :: tail → Wildcard.matches rest tail = true →
          MatchesAnywhere pattern path)) := by
  refine ⟨matches_anywhere_below,
    fun h => ⟨fun hflat hne => hflat.matchesAnywhere hne h, ?_, ?_, ?_⟩⟩
  · rintro name rfl hslash hbracket hne
    exact matchesAnywhere_of_behind hslash hbracket hne h
  · rintro front tail hsplit hcloses hfront between rest rfl hrest
    exact matchesAnywhere_of_between hsplit hcloses hfront hrest
  · rintro rest rfl hcloses
    refine ⟨fun directory => ?_, ?_⟩
    · obtain ⟨tail, htail, hmatches⟩ := (matches_anywhere_iff hcloses).mp h
      obtain ⟨front, hfront⟩ := htail.exists_front directory
      exact hfront ▸ (matchesAnywhere_of_inFront hcloses hmatches).1
    · rintro front tail rfl hmatches
      exact matchesAnywhere_of_inFront hcloses hmatches

/-- A directory of drafts, a document at some depth, and documents anywhere below the base. -/
theorem matchesAnywhere_of_drafts :
    MatchesAnywhere "drafts/**".toList "drafts/a.md".toList ∧
    MatchesAnywhere "docs/**/a.md".toList "docs/b/a.md".toList ∧
    MatchesAnywhere "**/*.md".toList "docs/a.md".toList := by
  refine ⟨?_, ?_, ?_⟩
  · exact ((matches_anywhere _ _).2 (by cbv)).2.1 "drafts".toList rfl (by decide) (by decide)
      (by decide)
  · exact ((matches_anywhere _ _).2 (by cbv)).2.2.1 "docs".toList "a.md".toList (by decide)
      (by decide) (by decide) "b".toList "a.md".toList rfl (by cbv)
  · exact (((matches_anywhere _ _).2 (by cbv)).2.2.2 "*.md".toList rfl (by decide)).2 "docs".toList
      "a.md".toList rfl (by cbv)

/-- Two stars behind a name match a path of that name only.  With two stars in front as well, they
match what lies in a directory of that name. -/
theorem not_matches_anywhere_name :
    Glob.matches "build/**".toList "build".toList = true ∧
    Glob.matches (anywhere "build/**".toList) "build".toList = false ∧
    Glob.matches (anywhere "build/**".toList) "d/build".toList = false := by
  refine ⟨?_, ?_, ?_⟩ <;> cbv

end Glob

end ProseLinter
