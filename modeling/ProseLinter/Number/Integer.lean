import ProseLinter.Text.Class

/-!
# Number/Integer — integers as text

Integers are written in base ten.  They are read from the decimal digits of any script, with blanks
around them, a sign, and single underscores between digits.
-/

namespace ProseLinter.Integer

/-- An integer in base ten. -/
def text (i : Int) : List Char :=
  if i < 0 then '-' :: Nat.toDigits 10 i.natAbs else Nat.toDigits 10 i.natAbs

/-- The longest run of digits that is read or written. -/
def maxDigits : Nat := 4300

/-- Whether an integer has few enough digits to be written. -/
def isWritable (i : Int) : Bool := decide (i.natAbs < Nat.pow 10 maxDigits)

/-- The digits of a number, where `opened` says that a digit came just before: an underscore stands
only between two digits. -/
def digits? (value : Char → Option Nat) : Bool → List Char → Option (List Nat)
  | opened, [] => if opened then some [] else none
  | opened, c :: cs =>
    if c = '_' then if opened then digits? value false cs else none
    else
      match value c with
      | none => none
      | some d => (digits? value true cs).map (d :: ·)

/-- The number that a list of digits spells. -/
def ofDigits (ds : List Nat) : Nat := ds.foldl (fun n d => n * 10 + d) 0

/-- A sign in front of a text. -/
def splitSign : List Char → Bool × List Char
  | '-' :: cs => (true, cs)
  | '+' :: cs => (false, cs)
  | cs => (false, cs)

/-- The blanks that may stand around a number: of the characters of ASCII only the usual ones. -/
def isPadding (c : Char) : Bool := if Text.isAscii c then Text.isAsciiBlank c else Text.isBlank c

/-- **Reading an integer.** -/
def read? (cs : List Char) : Option Int :=
  let (negative, body) := splitSign (Text.strip isPadding cs)
  match digits? Text.digitValue? false body with
  | none => none
  | some ds =>
    if maxDigits < ds.length then none
    else
      let n : Int := ofDigits ds
      some (if negative then -n else n)

end ProseLinter.Integer
