import ProseLinter.Proofs.Pattern.Glob
import ProseLinter.Proofs.Scan.Selection

/-!
# Proofs/Scan/Defaults — what the default patterns accept

A star matches slashes too, so the texts that a pattern with two stars in front and a star behind
matches are those with a name that begins as the pattern says, and everything below such a name
(`Glob.matches_inFront_literal_star_iff`).  Read name by name, the default patterns accept the
documents that are outside of hidden, installed and built directories
(`Scan.verdict_default_eq_included_iff`).
-/

namespace ProseLinter

/-! ## Pieces without the separator -/

namespace Text

variable {sep : Char} {piece : List Char}

/-- **The join begins** as its first part does… -/
theorem prefix_join_cons_iff (h : sep ∉ piece) (part : List Char) (parts : List (List Char)) :
    piece <+: join [sep] (part :: parts) ↔ piece <+: part := by
  cases parts with
  | nil => rfl
  | cons next parts =>
    rw [join_cons_cons, List.append_assoc, List.singleton_append, prefix_append_cons_iff h]

/-- …and ends as its last one does. -/
theorem suffix_join_iff (h : sep ∉ piece) :
    ∀ {parts : List (List Char)} (hne : parts ≠ []),
      piece <:+ join [sep] parts ↔ piece <:+ parts.getLast hne
  | [], hne => absurd rfl hne
  | [_], _ => Iff.rfl
  | part :: next :: parts, _ => by
      rw [join_cons_cons, List.append_assoc, List.singleton_append, suffix_append_cons_iff h,
        suffix_join_iff h (List.cons_ne_nil next parts), List.getLast_cons_cons]

end Text

/-! ## Patterns for names -/

namespace Glob

variable {path piece : List Char}

/-- A tail begins with a piece exactly if some name does. -/
theorem exists_isTail_prefix_iff (h : '/' ∉ piece) :
    (∃ tail, IsTail tail path ∧ piece <+: tail) ↔
      ∃ part ∈ Text.splitOn '/' path, piece <+: part := by
  have hfirst : ∀ tail, piece <+: tail → ∃ part ∈ Text.splitOn '/' tail, piece <+: part := by
    intro tail htail
    obtain ⟨part, parts, heq⟩ := List.exists_cons_of_ne_nil (Text.splitOn_ne_nil '/' tail)
    rw [← Text.join_splitOn '/' tail, heq, Text.prefix_join_cons_iff h] at htail
    exact ⟨part, heq ▸ List.mem_cons_self, htail⟩
  constructor
  · rintro ⟨tail, rfl | ⟨front, rfl⟩, htail⟩
    · exact hfirst tail htail
    · obtain ⟨part, hpart, hpiece⟩ := hfirst tail htail
      exact ⟨part, Text.splitOn_append_cons front tail ▸ List.mem_append_right _ hpart, hpiece⟩
  · rintro ⟨part, hpart, hpiece⟩
    obtain ⟨front, behind, heq⟩ := List.append_of_mem hpart
    refine ⟨Text.join ['/'] (part :: behind), ?_, (Text.prefix_join_cons_iff h part _).mpr hpiece⟩
    rw [← Text.join_splitOn '/' path, heq]
    by_cases hfront : front = []
    · exact Or.inl (by rw [hfront, List.nil_append])
    · exact Or.inr ⟨_, by
        rw [Text.join_append hfront (List.cons_ne_nil part behind), List.append_assoc,
          List.singleton_append]⟩

/-- **Two stars in front of a star and an ending** match the paths with that ending… -/
theorem matches_inFront_star_literal_iff (hpiece : piece.all Wildcard.isLiteral = true)
    (hcloses : ¬ Closes ("**/".toList ++ '*' :: piece)) :
    Glob.matches ("**/".toList ++ '*' :: piece) path = true ↔ piece <:+ path := by
  rw [matches_inFront_iff hcloses]
  simp only [Wildcard.matches_star_literal_iff hpiece]
  constructor
  · rintro ⟨tail, rfl | ⟨front, rfl⟩, htail⟩
    · exact htail
    · exact htail.trans ⟨front ++ ['/'], by simp⟩
  · exact fun h => ⟨path, Or.inl rfl, h⟩

/-- …and in front of a beginning and a star those with a name that begins so. -/
theorem matches_inFront_literal_star_iff (hpiece : piece.all Wildcard.isLiteral = true)
    (hslash : '/' ∉ piece) (hcloses : ¬ Closes ("**/".toList ++ (piece ++ ['*']))) :
    Glob.matches ("**/".toList ++ (piece ++ ['*'])) path = true ↔
      ∃ part ∈ Text.splitOn '/' path, piece <+: part := by
  rw [matches_inFront_iff hcloses, ← exists_isTail_prefix_iff hslash]
  simp only [Wildcard.matches_literal_star_iff hpiece]

/-- **Two stars on both sides of a name** match what is in a directory of that name… -/
theorem matches_around_literal_iff (hpiece : piece.all Wildcard.isLiteral = true) :
    Glob.matches ("**/".toList ++ piece ++ "/**".toList) path = true ↔
      piece ∈ (Text.splitOn '/' path).dropLast := by
  rw [matches_around_iff ((List.prefix_append _ _).trans (List.prefix_append _ _))
    (closes_behind _), middle_around]
  simp only [Wildcard.matches_literal_iff hpiece, exists_eq_right]

/-- …and two stars behind a name the paths whose first name it is. -/
theorem matches_behind_name_iff (hslash : '/' ∉ piece) (hopens : ¬ Opens (piece ++ "/**".toList))
    (hdivides : ¬ "/**/".toList <:+: piece ++ "/**".toList) :
    Glob.matches (piece ++ "/**".toList) path = true ↔
      (Text.splitOn '/' path).head? = some piece := by
  rw [matches_behind_iff hopens hdivides]
  constructor
  · rintro (rfl | ⟨rest, rfl⟩)
    · rw [Text.splitOn_of_not_mem hslash, List.head?_cons]
    · rw [Text.splitOn_append_cons, Text.splitOn_of_not_mem hslash, List.singleton_append,
        List.head?_cons]
  · intro h
    obtain ⟨parts, heq⟩ := List.head?_eq_some_iff.mp h
    rw [← Text.join_splitOn '/' path, heq]
    cases parts with
    | nil => exact Or.inl rfl
    | cons next parts => exact Or.inr ⟨Text.join ['/'] (next :: parts), by
        rw [Text.join_cons_cons, List.append_assoc, List.singleton_append]⟩

end Glob

/-! ## The default patterns -/

namespace Scan

variable {names : List String}

/-- Names without slashes and backslashes, with slashes between them, are those that paths are cut
into. -/
theorem splitOn_slashed (hne : names ≠ [])
    (h : ∀ name ∈ names, '/' ∉ name.toList ∧ '\\' ∉ name.toList) :
    slashed names = Text.join ['/'] (names.map String.toList) ∧
      Text.splitOn '/' (slashed names) = names.map String.toList := by
  have hsplit : Text.splitOn '/' (Text.join ['/'] (names.map String.toList)) =
      names.map String.toList := by
    refine Text.splitOn_join (by simpa using hne) fun part hpart => ?_
    obtain ⟨name, hname, rfl⟩ := List.mem_map.mp hpart
    exact (h name hname).1
  have hmem : '\\' ∉ Text.join ['/'] (names.map String.toList) := fun hmem => by
    obtain ⟨part, hpart, hc⟩ := Text.exists_mem_splitOn (by decide : '\\' ≠ '/') hmem
    obtain ⟨name, hname, rfl⟩ := List.mem_map.mp (hsplit ▸ hpart)
    exact (h name hname).2 hc
  have hslashed : slashed names = Text.join ['/'] (names.map String.toList) :=
    (List.map_congr_left fun c hc => if_neg (ne_of_mem_of_not_mem hc hmem)).trans (List.map_id _)
  exact ⟨hslashed, hslashed ▸ hsplit⟩

section

variable (hne : names ≠ []) (h : ∀ name ∈ names, '/' ∉ name.toList ∧ '\\' ∉ name.toList)

include hne h

/-- A suffix of the path is one of its last name. -/
theorem matches_suffix_iff (suffix : List Char) (hliteral : suffix.all Wildcard.isLiteral = true)
    (hslash : '/' ∉ suffix) (hcloses : ¬ Glob.Closes ("**/".toList ++ '*' :: suffix)) :
    Glob.matches ("**/".toList ++ '*' :: suffix) (slashed names) = true ↔
      suffix <:+ (names.getLast hne).toList := by
  rw [Glob.matches_inFront_star_literal_iff hliteral hcloses, (splitOn_slashed hne h).1,
    Text.suffix_join_iff hslash (by simpa using hne), List.getLast_map]

/-- A tail of the path that begins with a dot begins with a name that does. -/
theorem matches_hidden_iff : Glob.matches "**/.*".toList (slashed names) = true ↔
    ∃ name ∈ names, ".".toList <+: name.toList := by
  have hstar : Glob.matches ("**/".toList ++ (".".toList ++ ['*'])) (slashed names) = true ↔ _ :=
    Glob.matches_inFront_literal_star_iff (by decide) (by decide) (by decide)
  rw [(splitOn_slashed hne h).2] at hstar
  refine hstar.trans ⟨?_, fun ⟨name, hname, hdot⟩ => ⟨_, List.mem_map_of_mem hname, hdot⟩⟩
  rintro ⟨_, hpart, hdot⟩
  obtain ⟨name, hname, rfl⟩ := List.mem_map.mp hpart
  exact ⟨name, hname, hdot⟩

/-- A directory on the way is one of the names but the last. -/
theorem matches_directory_iff (name : String)
    (hliteral : name.toList.all Wildcard.isLiteral = true) :
    Glob.matches ("**/".toList ++ name.toList ++ "/**".toList) (slashed names) = true ↔
      name ∈ names.dropLast := by
  have hinjective : Function.Injective String.toList := fun _ _ => String.toList_injective
  rw [Glob.matches_around_literal_iff hliteral, (splitOn_slashed hne h).2, ← List.map_dropLast,
    List.mem_map_of_injective hinjective]

/-- What lies at or below a name has it as the first one. -/
theorem matches_head_iff (name : String) (hslash : '/' ∉ name.toList)
    (hopens : ¬ Glob.Opens (name.toList ++ "/**".toList))
    (hdivides : ¬ "/**/".toList <:+: name.toList ++ "/**".toList) :
    Glob.matches (name.toList ++ "/**".toList) (slashed names) = true ↔
      names.head hne = name := by
  rw [Glob.matches_behind_name_iff hslash hopens hdivides, (splitOn_slashed hne h).2,
    List.head?_map, List.head?_eq_some_head hne, Option.map_some, Option.some_inj,
    String.toList_inj]

/-- **The default patterns take in** the names that end in one of two suffixes… -/
theorem matches_defaultIncluded_iff :
    (∃ pattern ∈ Config.defaultIncluded, Glob.matches pattern.toList (slashed names) = true) ↔
      ".md".toList <:+ (names.getLast hne).toList ∨
        ".txt".toList <:+ (names.getLast hne).toList := by
  have hmd := matches_suffix_iff hne h ".md".toList (by decide) (by decide) (by decide)
  have htxt := matches_suffix_iff hne h ".txt".toList (by decide) (by decide) (by decide)
  simpa [Config.defaultIncluded] using or_congr hmd htxt

/-- …and leave out hidden names, and installed and built directories. -/
theorem not_matches_defaultExcluded_iff :
    (∀ pattern ∈ Config.defaultExcluded, Glob.matches pattern.toList (slashed names) = false) ↔
      (∀ name ∈ names, ¬ ".".toList <+: name.toList) ∧
      (∀ name ∈ names.dropLast, name ≠ "node_modules" ∧ name ≠ "venv") ∧
      names.head hne ≠ "build" ∧ names.head hne ≠ "dist" := by
  have hgit := matches_directory_iff hne h ".git" (by decide)
  have hmodules := matches_directory_iff hne h "node_modules" (by decide)
  have hhiddenVenv := matches_directory_iff hne h ".venv" (by decide)
  have hvenv := matches_directory_iff hne h "venv" (by decide)
  have hbuild := matches_head_iff hne h "build" (by decide) (by decide) (by decide)
  have hdist := matches_head_iff hne h "dist" (by decide) (by decide) (by decide)
  have hall : (∀ pattern ∈ Config.defaultExcluded,
      Glob.matches pattern.toList (slashed names) = false) ↔
      ¬ (∃ name ∈ names, ".".toList <+: name.toList) ∧ ".git" ∉ names.dropLast ∧
        "node_modules" ∉ names.dropLast ∧ ".venv" ∉ names.dropLast ∧ "venv" ∉ names.dropLast ∧
        names.head hne ≠ "build" ∧ names.head hne ≠ "dist" := by
    rw [← matches_hidden_iff hne h, ← hgit, ← hmodules, ← hhiddenVenv, ← hvenv, Ne, ← hbuild, Ne,
      ← hdist]
    simp only [Config.defaultExcluded, List.forall_mem_cons, Bool.not_eq_true]
    simp
  rw [hall]
  constructor
  · rintro ⟨hhidden, -, hmodules, -, hvenv, hhead⟩
    refine ⟨fun name hname hdot => hhidden ⟨name, hname, hdot⟩, fun name hname => ⟨?_, ?_⟩, hhead⟩
    · exact ne_of_mem_of_not_mem hname hmodules
    · exact ne_of_mem_of_not_mem hname hvenv
  · rintro ⟨hhidden, hplain, hhead⟩
    -- the two patterns for hidden directories add nothing to the one for hidden names
    have hdotted : ∀ name : String, ".".toList <+: name.toList → name ∉ names.dropLast :=
      fun name hdot hname => hhidden name (List.mem_of_mem_dropLast hname) hdot
    exact ⟨fun ⟨name, hname, hdot⟩ => hhidden name hname hdot, hdotted _ (by decide),
      fun hname => (hplain _ hname).1 rfl, hdotted _ (by decide),
      fun hname => (hplain _ hname).2 rfl, hhead⟩

/-- **What the default patterns accept.**  Documents with one of two suffixes, unless some name on
the way is hidden, a directory on the way holds installed packages, or the first name is one of
those for built files. -/
theorem verdict_default_eq_included_iff (b : Path) :
    verdict Config.defaultIncluded Config.defaultExcluded b (b.below names) = .included ↔
      (".md".toList <:+ (names.getLast hne).toList ∨
        ".txt".toList <:+ (names.getLast hne).toList) ∧
      (∀ name ∈ names, ¬ ".".toList <+: name.toList) ∧
      (∀ name ∈ names.dropLast, name ≠ "node_modules" ∧ name ≠ "venv") ∧
      names.head hne ≠ "build" ∧ names.head hne ≠ "dist" := by
  rw [verdict_below_eq_included_iff hne, Accepts, and_comm, matches_defaultIncluded_iff hne h,
    not_matches_defaultExcluded_iff hne h]

end

/-- A built file further down is a document like any other, and one below a hidden directory is
not. -/
theorem verdict_default_build :
    verdict Config.defaultIncluded Config.defaultExcluded ⟨.absolute, ["w"]⟩
        (Path.below ⟨.absolute, ["w"]⟩ ["docs", "build", "a.md"]) = .included ∧
      verdict Config.defaultIncluded Config.defaultExcluded ⟨.absolute, ["w"]⟩
        (Path.below ⟨.absolute, ["w"]⟩ [".cache", "a.md"]) ≠ .included :=
  ⟨(verdict_default_eq_included_iff (by simp) (by decide) _).mpr (by decide),
    fun h => absurd ((verdict_default_eq_included_iff (by simp) (by decide) _).mp h) (by decide)⟩

end Scan

end ProseLinter
