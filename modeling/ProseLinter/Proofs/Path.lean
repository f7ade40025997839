import Mathlib
import ProseLinter.Path

/-!
# Proofs/Path — reading paths, paths below one another, and paths in order

A suffix at the end of a text is one of the last name of the path that is read from it
(`suffix_name_append`).  A path lies at or below a base exactly if it is the base with more names
(`relativeTo?_eq_some_iff`).  Paths are ordered by the text of the root and then name by name
(`before_iff_key_lt`), so a set of paths has one strictly increasing list (`eq_of_increasing`).
-/

namespace ProseLinter

/-! ## The parts of a text -/

namespace Text

variable {sep : Char} {cs ds suffix piece : List Char}

theorem splitOn_of_not_mem (h : sep ∉ suffix) : splitOn sep suffix = [suffix] := by
  induction suffix with
  | nil => rfl
  | cons c cs ih =>
    rw [List.mem_cons, not_or] at h
    rw [splitOn, if_neg (Ne.symm h.1), ih h.2]

/-- **A separator divides the parts**: those before it, and those after it. -/
theorem splitOn_append_cons (cs ds : List Char) :
    splitOn sep (cs ++ sep :: ds) = splitOn sep cs ++ splitOn sep ds := by
  induction cs with
  | nil => simp [splitOn]
  | cons c cs ih =>
    rw [List.cons_append, splitOn, splitOn, ih]
    split
    · rfl
    · obtain ⟨part, parts, heq⟩ := List.exists_cons_of_ne_nil (splitOn_ne_nil sep cs)
      rw [heq, List.cons_append]
      rfl

/-- **Joining loses nothing**: parts without the separator are the ones that their join splits
into. -/
theorem splitOn_join : ∀ {parts : List (List Char)}, parts ≠ [] → (∀ p ∈ parts, sep ∉ p) →
    splitOn sep (join [sep] parts) = parts
  | [], hne, _ => absurd rfl hne
  | [part], _, h => splitOn_of_not_mem (h part List.mem_cons_self)
  | part :: next :: parts, _, h => by
      have hrest := splitOn_join (List.cons_ne_nil next parts)
        fun p hp => h p (List.mem_cons_of_mem part hp)
      rw [join_cons_cons, List.append_assoc, List.singleton_append, splitOn_append_cons,
        splitOn_of_not_mem (h part List.mem_cons_self), hrest, List.singleton_append]

/-- The join of some parts and some others has the separator between the two. -/
theorem join_append {ps qs : List (List Char)} (hps : ps ≠ []) (hqs : qs ≠ []) (sep : List Char) :
    join sep (ps ++ qs) = join sep ps ++ sep ++ join sep qs := by
  induction ps with
  | nil => exact absurd rfl hps
  | cons p ps ih =>
    cases ps with
    | nil =>
      obtain ⟨q, qs, rfl⟩ := List.exists_cons_of_ne_nil hqs
      rfl
    | cons p' ps =>
      rw [List.cons_append, List.cons_append, join_cons_cons, ← List.cons_append,
        ih (List.cons_ne_nil p' ps), join_cons_cons]
      simp only [List.append_assoc]

/-- A suffix without the separator belongs to the last part. -/
theorem exists_splitOn_append (h : sep ∉ suffix) (cs : List Char) :
    ∃ front last, splitOn sep (cs ++ suffix) = front ++ [last ++ suffix] := by
  induction cs with
  | nil => exact ⟨[], [], splitOn_of_not_mem h⟩
  | cons c cs ih =>
    obtain ⟨front, last, heq⟩ := ih
    rw [List.cons_append, splitOn, heq]
    split
    · exact ⟨[] :: front, last, rfl⟩
    · cases front with
      | nil => exact ⟨[], c :: last, rfl⟩
      | cons part front => exact ⟨(c :: part) :: front, last, rfl⟩

/-- A text without the separator begins what stands before it… -/
theorem prefix_append_cons_iff (h : sep ∉ piece) : piece <+: cs ++ sep :: ds ↔ piece <+: cs := by
  refine ⟨fun hpiece => ?_, fun hpiece => hpiece.trans (List.prefix_append cs _)⟩
  refine (List.prefix_or_prefix_of_prefix hpiece (List.prefix_append cs _)).elim id ?_
  rintro ⟨more, rfl⟩
  cases more with
  | nil => rw [List.append_nil]
  | cons c more =>
    obtain ⟨rfl, -⟩ := List.cons_prefix_cons.mp ((List.prefix_append_right_inj cs).mp hpiece)
    exact absurd (by simp) h

/-- …or ends what stands after it. -/
theorem suffix_append_cons_iff (h : sep ∉ piece) : piece <:+ cs ++ sep :: ds ↔ piece <:+ ds := by
  have hds : ds <:+ cs ++ sep :: ds := ⟨cs ++ [sep], by simp⟩
  refine ⟨fun hpiece => ?_, fun hpiece => hpiece.trans hds⟩
  rcases List.suffix_or_suffix_of_suffix hpiece (List.suffix_append cs _) with hpiece | hpiece
  · refine (List.suffix_cons_iff.mp hpiece).resolve_left ?_
    rintro rfl
    exact h List.mem_cons_self
  · exact absurd (hpiece.subset List.mem_cons_self) h

/-- Every other character is in one of the parts. -/
theorem exists_mem_splitOn {c : Char} (hc : c ≠ sep) (h : c ∈ cs) :
    ∃ part ∈ splitOn sep cs, c ∈ part := by
  induction cs with
  | nil => cases h
  | cons d cs ih =>
    rw [splitOn]
    split
    · next hd =>
      obtain ⟨part, hpart, hmem⟩ := ih ((List.mem_cons.mp h).resolve_left fun h => hc (h.trans hd))
      exact ⟨part, List.mem_cons_of_mem _ hpart, hmem⟩
    · obtain ⟨first, rest, heq⟩ := List.exists_cons_of_ne_nil (splitOn_ne_nil sep cs)
      rw [heq] at ih ⊢
      rcases List.mem_cons.mp h with rfl | h
      · exact ⟨c :: first, List.mem_cons_self, List.mem_cons_self⟩
      · obtain ⟨part, hpart, hmem⟩ := ih h
        rcases List.mem_cons.mp hpart with rfl | hpart
        · exact ⟨d :: part, List.mem_cons_self, List.mem_cons_of_mem d hmem⟩
        · exact ⟨part, List.mem_cons_of_mem _ hpart, hmem⟩

end Text

/-- **A suffix of names** has no slash in it, and is not the dot that paths leave out. -/
structure IsSuffix (suffix : String) : Prop where
  slash_not_mem : '/' ∉ suffix.toList
  ne_dot : suffix ≠ "."

namespace Path

variable {p q base rel : Path} {names : List String}

/-! ## Reading a path -/

/-- **A path whose text ends in a suffix** has a last name that does. -/
theorem suffix_name_append {name suffix : String} (h : IsSuffix suffix) (p : Path) :
    suffix.toList <:+ (p.append (.ofText (name ++ suffix))).name.toList := by
  by_cases hempty : suffix = ""
  · rw [hempty]
    exact List.nil_suffix
  obtain ⟨front, last, heq⟩ := Text.exists_splitOn_append h.slash_not_mem name.toList
  have hdot : String.ofList last ++ suffix ≠ "." := by
    intro hdot
    have hchars : last ++ suffix.toList = ['.'] := by simpa using congrArg String.toList hdot
    rcases List.append_eq_singleton_iff.mp hchars with ⟨-, hsuffix⟩ | ⟨-, hsuffix⟩
    · exact h.ne_dot (String.toList_injective hsuffix)
    · exact hempty (String.toList_injective hsuffix)
  have hnames : ∃ names, (ofText (name ++ suffix)).names =
      names ++ [String.ofList last ++ suffix] := by
    refine ⟨((front.filter fun n => !n.isEmpty).map String.ofList).filter (· ≠ "."), ?_⟩
    rw [ofText, ofChars, rawNames, String.toList_append, heq]
    simp [hempty, hdot]
  obtain ⟨names, hnames⟩ := hnames
  have hname : (p.append (.ofText (name ++ suffix))).name = String.ofList last ++ suffix := by
    rw [append]
    split <;> simp [Path.name, hnames, ← List.append_assoc]
  rw [hname, String.toList_append]
  exact List.suffix_append _ _

/-! ## Below a base -/

@[simp] theorem below_root (p : Path) (names : List String) : (p.below names).root = p.root := rfl

@[simp] theorem below_names (p : Path) (names : List String) :
    (p.below names).names = p.names ++ names := rfl

@[simp] theorem below_nil (p : Path) : p.below [] = p := by
  rw [below, List.append_nil]

theorem below_below (p : Path) (names more : List String) :
    (p.below names).below more = p.below (names ++ more) := by
  simp [below]

/-- **A path relative to a base** is made of the names that it has more. -/
theorem relativeTo?_eq_some_iff :
    p.relativeTo? base = some rel ↔ ∃ names, p = base.below names ∧ rel = ⟨.relative, names⟩ := by
  unfold relativeTo?
  constructor
  · intro h
    split at h
    · next hroot =>
      obtain ⟨names, hnames, rfl⟩ := Option.map_eq_some_iff.mp h
      refine ⟨names, ?_, rfl⟩
      rw [below, ← hroot, ← eq_append_of_namesAfter? hnames]
    · cases h
  · rintro ⟨names, rfl, rfl⟩
    rw [if_pos (below_root base names), below_names, namesAfter?_append, Option.map_some]

theorem relativeTo?_below (base : Path) (names : List String) :
    (base.below names).relativeTo? base = some ⟨.relative, names⟩ :=
  relativeTo?_eq_some_iff.mpr ⟨names, rfl, rfl⟩

/-- A path with names is below its parent, by its last name. -/
theorem below_parent (h : p.names ≠ []) : p.parent.below [p.names.getLast h] = p := by
  rw [below, parent, List.dropLast_concat_getLast]

/-! ## The order of paths -/

/-- What paths are ordered by: the text of the root, and the names. -/
def key (p : Path) : List Char ×ₗ List String := toLex (p.root.text, p.names)

theorem key_injective : Function.Injective key := by
  rintro ⟨root, names⟩ ⟨root', names'⟩ h
  obtain ⟨hroot, rfl⟩ := Prod.mk.inj h
  cases root <;> cases root' <;> simp_all [Root.text]

theorem before_iff_key_lt : p.before q = true ↔ p.key < q.key := by
  unfold before key
  rw [Prod.Lex.toLex_lt_toLex]
  split
  · next hroot => simp [hroot]
  · next hroot =>
    have hne : p.root.text ≠ q.root.text := by
      obtain ⟨root, names⟩ := p
      obtain ⟨root', names'⟩ := q
      cases root <;> cases root' <;> simp_all [Root.text]
    simp [hne]

/-- **A strictly increasing list of paths.** -/
def Increasing (files : List Path) : Prop := files.Pairwise fun p q => p.before q = true

/-- **A set of paths has one increasing list.** -/
theorem eq_of_increasing {files files' : List Path} (h : Increasing files)
    (h' : Increasing files') (hmem : ∀ p, p ∈ files ↔ p ∈ files') : files = files' := by
  have hanti : Std.Antisymm fun p q : Path => p.before q = true :=
    ⟨fun p q hpq hqp => absurd (before_iff_key_lt.mp hpq) (before_iff_key_lt.mp hqp).asymm⟩
  have hirrefl : Std.Irrefl fun p q : Path => p.before q = true :=
    ⟨fun p hp => (before_iff_key_lt.mp hp).false⟩
  exact h.eq_of_mem_iff h' hmem

end Path

end ProseLinter
