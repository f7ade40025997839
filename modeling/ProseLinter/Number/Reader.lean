import ProseLinter.Number.Binary64
import ProseLinter.Number.Integer

/-!
# Number/Reader — decimal texts read as binary numbers

A sign, digits, a fraction and an exponent, or the names of infinity and of the absence of a number.
-/

namespace ProseLinter.Binary64

/-- Digits with single underscores between them at the front of a text, and the rest.  `opened`
says that a digit came just before. -/
def leadingDigits : Bool → List Char → List Nat × List Char
  | opened, '_' :: c :: cs =>
    if opened && c.isDigit then
      let (ds, rest) := leadingDigits true cs
      ((c.toNat - '0'.toNat) :: ds, rest)
    else ([], '_' :: c :: cs)
  | _, c :: cs =>
    if c.isDigit then
      let (ds, rest) := leadingDigits true cs
      ((c.toNat - '0'.toNat) :: ds, rest)
    else ([], c :: cs)
  | _, [] => ([], [])

/-- The exponent after the digits; no exponent is zero. -/
def exponent? : List Char → Option Int
  | [] => some 0
  | e :: cs =>
    if e = 'e' ∨ e = 'E' then
      let (negative, body) := Integer.splitSign cs
      match leadingDigits false body with
      | ([], _) => none
      | (ds, []) =>
        let n : Int := Integer.ofDigits ds
        some (if negative then -n else n)
      | _ => none
    else none

/-- An unsigned decimal text. -/
def readUnsigned? (negative : Bool) (cs : List Char) : Option Binary64 :=
  let lower := cs.map Char.toLower
  if lower = "inf".toList ∨ lower = "infinity".toList then some (.infinite negative)
  else if lower = "nan".toList then some (.nan 0)
  else
    let (whole, rest) := leadingDigits false cs
    let (fraction, rest) :=
      match rest with
      | '.' :: rest => leadingDigits false rest
      | _ => ([], rest)
    if whole.isEmpty && fraction.isEmpty then none
    else
      (exponent? rest).map fun e =>
        ofDecimal negative (Integer.ofDigits (whole ++ fraction)) (e - fraction.length)

/-- **Reading a number**: blanks around it, a sign, and a decimal text. -/
def read? (cs : List Char) : Option Binary64 :=
  let (negative, body) := Integer.splitSign (Text.strip Integer.isPadding cs)
  readUnsigned? negative body

end ProseLinter.Binary64
