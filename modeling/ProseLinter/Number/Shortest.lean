import ProseLinter.Number.Binary64

/-!
# Number/Shortest — the shortest decimal that reads back as a given number

A finite number owns an interval of reals that round to it.  For one digit, two digits, and so on,
the two neighbours of the number on that decimal grid are tested against the interval in exact
integer arithmetic; the first grid with a hit gives the digits, the nearer of two hits wins, and of
two equally near ones the even one.
-/

namespace ProseLinter

/-- Decimal digits `digits` with the point before the first of them, times `10 ^ point`. -/
structure Decimal where
  digits : List Char
  point : Int
  deriving DecidableEq, Repr

namespace Binary64

/-- How `a · 10 ^ k` compares with `b · 2 ^ q`. -/
def compareScaled (a : Nat) (k : Int) (b : Nat) (q : Int) : Ordering :=
  let left := a * Nat.pow 10 k.toNat * Nat.pow 2 (-q).toNat
  let right := b * Nat.pow 2 q.toNat * Nat.pow 10 (-k).toNat
  compare left right

/-- Whether `c · 10 ^ k` rounds to `m · 2 ^ q`.  The interval reaches half a unit up, and half a
unit down, or a quarter at the least mantissa of an exponent; its ends count when `m` is even. -/
def roundsTo (m : Nat) (q : Int) (c : Nat) (k : Int) : Bool :=
  let down := if m = Nat.pow 2 52 ∧ leastExponent < q then 1 else 2
  let low := compareScaled c k (4 * m - down) (q - 2)
  let high := compareScaled c k (4 * m + 2) (q - 2)
  (low == .gt || (low == .eq && m % 2 == 0)) && (high == .lt || (high == .eq && m % 2 == 0))

/-- The number of decimal digits of `n`. -/
def digitCount (n : Nat) : Nat := (Nat.toDigits 10 n).length

/-- The exponent `e` with `10 ^ (e - 1) ≤ m · 2 ^ q < 10 ^ e`. -/
def decimalPoint (m : Nat) (q : Int) : Int :=
  let (num, den) := scale m q
  let e : Int := (digitCount num : Int) - digitCount den
  if num * Nat.pow 10 (-e).toNat < den * Nat.pow 10 e.toNat then e else e + 1

/-- The candidate of `n` digits, if one of the two neighbours of `m · 2 ^ q` rounds to it. -/
def candidate? (m : Nat) (q : Int) (point : Int) (n : Nat) : Option Nat :=
  let k := point - n
  let (num, den) := scale m q
  let num := num * Nat.pow 10 (-k).toNat
  let den := den * Nat.pow 10 k.toNat
  let below := num / den
  let rest := num % den
  let above := below + 1
  match roundsTo m q below k, roundsTo m q above k with
  | true, true =>
    if 2 * rest < den then some below
    else if den < 2 * rest then some above
    else if below % 2 = 0 then some below else some above
  | true, false => some below
  | false, true => some above
  | false, false => none

/-- **The shortest decimal** of `m · 2 ^ q`: the first digit count with a candidate.  Seventeen
digits always have one. -/
def shortest (m : Nat) (q : Int) : Decimal :=
  let point := decimalPoint m q
  match (List.range' 1 17).findSome? fun n => (candidate? m q point n).map ((n, ·)) with
  | some (n, c) =>
    let digits := Nat.toDigits 10 c
    let carry : Int := (digits.length : Int) - n
    ⟨(digits.reverse.dropWhile (· == '0')).reverse, point + carry⟩
  | none => ⟨['0'], 1⟩

/-- The exponent of the scientific form: a sign and at least two digits. -/
def exponentText (e : Int) : List Char :=
  let digits := Nat.toDigits 10 e.natAbs
  (if e < 0 then '-' else '+') :: (if digits.length < 2 then '0' :: digits else digits)

/-- A decimal, positional when the point falls between four places before the first digit and
sixteen after it, and scientific otherwise.  A positional text always shows a fraction. -/
def decimalText (d : Decimal) : List Char :=
  if -4 < d.point ∧ d.point ≤ 16 then
    if d.point ≤ 0 then
      '0' :: '.' :: (List.replicate (-d.point).toNat '0' ++ d.digits)
    else
      let p := d.point.toNat
      if d.digits.length ≤ p then
        d.digits ++ List.replicate (p - d.digits.length) '0' ++ ['.', '0']
      else d.digits.take p ++ '.' :: d.digits.drop p
  else
    match d.digits with
    | [] => []
    | [c] => c :: 'e' :: exponentText (d.point - 1)
    | c :: cs => c :: '.' :: (cs ++ 'e' :: exponentText (d.point - 1))

/-- **The text of a number**: the shortest decimal that reads back as it. -/
def text : Binary64 → List Char
  | .nan _ => "nan".toList
  | .infinite negative => if negative then "-inf".toList else "inf".toList
  | .finite negative m q =>
    let body := if m = 0 then "0.0".toList else decimalText (shortest m q)
    if negative then '-' :: body else body

end Binary64

end ProseLinter
