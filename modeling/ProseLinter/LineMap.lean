/-!
# LineMap — offsets and positions of a text

An offset counts the characters before it; a position is a line and a column, both counted from one.
A **line map** is what a text contributes to turning one into the other: where its lines start, and
its length.
-/

namespace ProseLinter

/-- A line and a column, counted from one. -/
structure Position where
  line : Int
  column : Int
  deriving DecidableEq, Repr

/-- The offsets at which the lines of a text start, and the number of its characters. -/
structure LineMap where
  starts : List Nat
  length : Nat
  deriving DecidableEq, Repr

namespace LineMap

/-- The offsets just after the line feeds of a text whose first character is at offset `i`. -/
def startsAfter (i : Nat) : List Char → List Nat
  | [] => []
  | c :: cs => if c = '\n' then (i + 1) :: startsAfter (i + 1) cs else startsAfter (i + 1) cs

/-- **The line map of a text**: the first line starts at zero, and every other one after a line
feed. -/
def ofText (text : List Char) : LineMap := ⟨0 :: startsAfter 0 text, text.length⟩

@[simp] theorem starts_ofText (text : List Char) :
    (ofText text).starts = 0 :: startsAfter 0 text := rfl

@[simp] theorem length_ofText (text : List Char) : (ofText text).length = text.length := rfl

/-- An offset that reaches past the end of the text stands for the end, a negative one for the
start. -/
def clamp (m : LineMap) (offset : Int) : Nat := (min offset m.length).toNat

theorem clamp_le_length (m : LineMap) (offset : Int) : m.clamp offset ≤ m.length := by
  unfold clamp
  omega

/-- **The position of an offset**: the last line that starts at it or before it. -/
def position (m : LineMap) (offset : Int) : Position :=
  let k := m.clamp offset
  let begun := m.starts.takeWhile (· ≤ k)
  ⟨begun.length, (k : Int) - (begun.getLast?.getD 0 : Nat) + 1⟩

/-- **The offset of a position**, on the nearest line that exists; the column may reach past the end
of its line. -/
def offset (m : LineMap) (p : Position) : Int :=
  let i := max 0 (min (p.line - 1) (m.starts.length - 1))
  ((m.starts[i.toNat]?.getD 0 : Nat) : Int) + max 0 (p.column - 1)

end LineMap

end ProseLinter
