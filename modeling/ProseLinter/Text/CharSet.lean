/-!
# Text/CharSet — sets of characters as sorted change points

A property of Unicode is a set of code points made of long runs.  It is stored as its **change
points**: the sorted code points at which membership flips, starting outside the set.  A character
belongs to the set when an odd number of change points lie at or below it.
-/

namespace ProseLinter

/-- A set of characters, given by the code points at which membership flips. -/
structure CharSet where
  /-- The change points, in increasing order. -/
  changes : List Nat

namespace CharSet

/-- Membership of a code point, when membership before the first change point is `inside`. -/
def flips : List Nat → Bool → Nat → Bool
  | [], inside, _ => inside
  | b :: bs, inside, n => if n < b then inside else flips bs (!inside) n

/-- **Membership**: the character's code point has an odd number of change points at or below it. -/
def contains (s : CharSet) (c : Char) : Bool := flips s.changes false c.toNat

end CharSet

end ProseLinter
