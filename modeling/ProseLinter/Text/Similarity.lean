/-!
# Text/Similarity — how alike two texts are

The longest run that two texts share is taken, then the longest ones before it and after it, and so
on.  The texts are alike as far as the runs cover them.
-/

namespace ProseLinter.Text

/-- The length of the front that two texts share. -/
def sharedFront : List Char → List Char → Nat
  | c :: cs, d :: ds => if c = d then sharedFront cs ds + 1 else 0
  | _, _ => 0

/-- A run that two texts share: its place in both, and its length. -/
structure SharedRun where
  left : Nat
  right : Nat
  length : Nat
  deriving DecidableEq, Repr

/-- The longest shared run; of several, the first in the first text, and then in the second. -/
def longestRun (a b : List Char) : SharedRun :=
  (List.range a.length).foldl
    (fun best i => (List.range b.length).foldl
      (fun best j =>
        let n := sharedFront (a.drop i) (b.drop j)
        if best.length < n then ⟨i, j, n⟩ else best)
      best)
    ⟨0, 0, 0⟩

/-- How many characters the shared runs cover. -/
def covered : (fuel : Nat) → List Char → List Char → Nat
  | 0, _, _ => 0
  | fuel + 1, a, b =>
    let run := longestRun a b
    if run.length = 0 then 0
    else
      run.length + covered fuel (a.take run.left) (b.take run.right)
        + covered fuel (a.drop (run.left + run.length)) (b.drop (run.right + run.length))

/-- The likeness of two texts, as a fraction. -/
def likeness (a b : List Char) : Nat × Nat :=
  (2 * covered (a.length + 1) a b, a.length + b.length)

/-- Whether a fraction is at least three fifths. -/
def isAlike (r : Nat × Nat) : Bool := 3 * r.2 ≤ 5 * r.1

/-- Whether one candidate with its likeness comes before another: the more alike first. -/
def ranksBefore (x y : String × (Nat × Nat)) : Bool :=
  let p := x.2.1 * y.2.2
  let q := y.2.1 * x.2.2
  if p = q then decide (¬ x.1 < y.1) else decide (q < p)

/-- How many candidates are named at most. -/
def maxCandidates : Nat := 3

/-- **The candidates that are like a word**, the best few of them. -/
def candidates (word : String) (names : List String) : List String :=
  let rated := names.map fun n => (n, likeness n.toList word.toList)
  let alike := (rated.filter fun r => isAlike r.2).mergeSort ranksBefore
  (alike.take maxCandidates).map (·.1)

end ProseLinter.Text
