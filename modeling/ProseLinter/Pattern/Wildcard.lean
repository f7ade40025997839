import ProseLinter.Pattern.CharClass

/-!
# Pattern/Wildcard — patterns with stars, question marks and brackets

A star stands for any characters, a question mark for one, brackets for one of a class.  A bracket
that is never closed stands for itself.
-/

namespace ProseLinter

/-- One element of a pattern. -/
inductive Wildcard where
  | star
  | any
  | char (c : Char)
  | oneOf (k : CharClass)
  deriving DecidableEq, Repr

/-- The ends of a list, from the whole list to the empty one. -/
def suffixes {α : Type} : List α → List (List α)
  | [] => [[]]
  | a :: as => (a :: as) :: suffixes as

@[simp] theorem head?_suffixes {α : Type} (l : List α) : (suffixes l).head? = some l := by
  cases l <;> rfl

theorem mem_suffixes {α : Type} {s l : List α} : s ∈ suffixes l ↔ ∃ front, front ++ s = l := by
  induction l with
  | nil => simp [suffixes]
  | cons a as ih =>
    rw [suffixes, List.mem_cons, ih]
    constructor
    · rintro (rfl | ⟨front, rfl⟩)
      · exact ⟨[], rfl⟩
      · exact ⟨a :: front, rfl⟩
    · rintro ⟨front, h⟩
      cases front with
      | nil => exact Or.inl h
      | cons b bs =>
        simp only [List.cons_append, List.cons.injEq] at h
        exact Or.inr ⟨bs, h.2⟩

namespace Wildcard

/-- How many characters after an opening bracket cannot close it. -/
def leadLength : List Char → Nat
  | '!' :: ']' :: _ => 2
  | '!' :: _ => 1
  | ']' :: _ => 1
  | _ => 0

/-- What follows an opening bracket: the text up to the closing one, and the rest.  A closing
bracket in the first place, or after an exclamation mark there, belongs to the text. -/
def splitContent? (cs : List Char) : Option (List Char × List Char) :=
  match (cs.drop (leadLength cs)).dropWhile (· ≠ ']') with
  | [] => none
  | _ :: rest =>
    some (cs.take (leadLength cs) ++ (cs.drop (leadLength cs)).takeWhile (· ≠ ']'), rest)

theorem length_lt_of_splitContent? {cs content rest : List Char}
    (h : splitContent? cs = some (content, rest)) : rest.length < cs.length := by
  unfold splitContent? at h
  split at h
  · cases h
  · rename_i d ds hd
    have hle := (List.dropWhile_sublist (l := cs.drop (leadLength cs)) (· ≠ ']')).length_le
    rw [hd] at hle
    cases h
    simp only [List.length_cons, List.length_drop] at hle
    omega

/-- **Reading a pattern.** -/
def parse : List Char → List Wildcard
  | [] => []
  | c :: cs =>
    if c = '*' then .star :: parse cs
    else if c = '?' then .any :: parse cs
    else if c = '[' then
      match h : splitContent? cs with
      | some (content, rest) =>
        have := length_lt_of_splitContent? h
        .oneOf (.ofContent content) :: parse rest
      | none => .char '[' :: parse cs
    else .char c :: parse cs
termination_by cs => cs.length

/-- Whether an element other than a star stands for a character. -/
def accepts : Wildcard → Char → Bool
  | star, _ => false
  | any, _ => true
  | char d, c => c == d
  | oneOf k, c => k.contains c

/-- **Matching**: whether the elements stand for the whole text. -/
def run : List Wildcard → List Char → Bool
  | [], cs => cs.isEmpty
  | .star :: ws, cs => (suffixes cs).any (run ws)
  | _ :: _, [] => false
  | w :: ws, c :: rest => w.accepts c && run ws rest

/-- For each end of a list of answers, whether one of them is yes. -/
def someAfter : List Bool → List Bool
  | [] => []
  | b :: bs =>
    let after := someAfter bs
    (b || after.head?.getD false) :: after

/-- For each end of a text, whether its first character stands for an element and the end after it
is accepted, where `accepted` says so of the ends. -/
def stepAfter (w : Wildcard) : List Char → List Bool → List Bool
  | [], _ => [false]
  | c :: cs, accepted =>
    (w.accepts c && (accepted.tail.head?.getD false)) :: stepAfter w cs accepted.tail

/-- For each end of a text, whether the elements match it.  Each element is held against each end
once. -/
def table (cs : List Char) : List Wildcard → List Bool
  | [] => (suffixes cs).map List.isEmpty
  | .star :: ws => someAfter (table cs ws)
  | w :: ws => stepAfter w cs (table cs ws)

/-- Whether a text matches a pattern. -/
def «matches» (pattern text : List Char) : Bool := ((table text (parse pattern)).head?).getD false

theorem someAfter_map (f : List Char → Bool) (cs : List Char) :
    someAfter ((suffixes cs).map f) = (suffixes cs).map fun s => (suffixes s).any f := by
  induction cs with
  | nil => simp [suffixes, someAfter]
  | cons c cs ih => simp [suffixes, someAfter, ih]

theorem stepAfter_map {w : Wildcard} {ws : List Wildcard} (hw : w ≠ star) (cs : List Char) :
    stepAfter w cs ((suffixes cs).map (run ws)) = (suffixes cs).map (run (w :: ws)) := by
  induction cs with
  | nil => cases w <;> simp_all [suffixes, stepAfter, run]
  | cons c cs ih => cases w <;> simp_all [suffixes, stepAfter, run]

/-- The table holds the answers of the matching, end by end. -/
theorem table_eq_map (cs : List Char) (ws : List Wildcard) :
    table cs ws = (suffixes cs).map (run ws) := by
  induction ws with
  | nil =>
    simp only [table]
    exact List.map_congr_left fun s _ => by cases s <;> rfl
  | cons w ws ih =>
    by_cases hw : w = star
    · subst hw
      rw [table, ih, someAfter_map]
      exact List.map_congr_left fun s _ => by cases s <;> simp [run]
    · rw [← stepAfter_map hw, ← ih]
      cases w <;> first | contradiction | rfl

/-- **A text matches a pattern** when the elements of the pattern stand for the whole text. -/
theorem matches_eq_run (pattern text : List Char) :
    Wildcard.matches pattern text = run (parse pattern) text := by
  simp [Wildcard.matches, table_eq_map]

end Wildcard

end ProseLinter
