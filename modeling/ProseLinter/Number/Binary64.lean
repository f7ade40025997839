/-!
# Number/Binary64 — binary floating point numbers of 64 bits, as exact values

A finite number is a sign, a mantissa and a power of two, so every question about it is a question
about integers: the nearest number to a decimal (`ofDecimal`), the integer part (`truncate?`) and
the order (`compare?`).
-/

namespace ProseLinter

/-- A floating point number: `finite negative m q` stands for `± m · 2 ^ q`.  What is no number
carries a payload, which tells two of them apart. -/
inductive Binary64 where
  | nan (payload : Nat)
  | infinite (negative : Bool)
  | finite (negative : Bool) (mantissa : Nat) (exponent : Int)
  deriving DecidableEq, Repr, Inhabited

namespace Binary64

/-- The least exponent, that of the subnormal numbers. -/
def leastExponent : Int := -1074

/-- The greatest exponent of a finite number. -/
def greatestExponent : Int := 971

/-- `n · 2 ^ e` as a fraction. -/
def scale (n : Nat) (e : Int) : Nat × Nat :=
  if 0 ≤ e then (n * Nat.pow 2 e.toNat, 1) else (n, Nat.pow 2 (-e).toNat)

/-- The integer nearest to `num / den`; a half goes to the even neighbour. -/
def roundHalfEven (num den : Nat) : Nat :=
  let below := num / den
  let rest := num % den
  if 2 * rest < den then below
  else if den < 2 * rest then below + 1
  else if below % 2 = 0 then below else below + 1

/-- **The nearest number** to `± num / den`: 53 bits of mantissa as far as the least exponent
allows, a half going to the even neighbour, and infinity past the greatest exponent. -/
def ofRatio (negative : Bool) (num den : Nat) : Binary64 :=
  if num = 0 then .finite negative 0 0
  else
    let level : Int := (Nat.log2 num : Int) - Nat.log2 den
    let (p, r) := scale 1 level
    let top := if num * r < den * p then level - 1 else level
    let q := max leastExponent (top - 52)
    let (a, b) := scale 1 q
    let m := roundHalfEven (num * b) (den * a)
    let (m, q) := if m = Nat.pow 2 53 then (Nat.pow 2 52, q + 1) else (m, q)
    if greatestExponent < q then .infinite negative else .finite negative m q

/-- The nearest number to `± digits · 10 ^ e`.  The guards keep huge exponents from being
multiplied out: such a number is infinite or zero whatever its digits. -/
def ofDecimal (negative : Bool) (digits : Nat) (e : Int) : Binary64 :=
  let size : Int := (Nat.toDigits 10 digits).length
  if digits = 0 then .finite negative 0 0
  else if 400 < size + e then .infinite negative
  else if size + e < -400 then .finite negative 0 0
  else if 0 ≤ e then ofRatio negative (digits * Nat.pow 10 e.toNat) 1
  else ofRatio negative digits (Nat.pow 10 (-e).toNat)

/-- An integer, kept exactly. -/
def ofInt (i : Int) : Binary64 := .finite (decide (i < 0)) i.natAbs 0

def isZero : Binary64 → Bool
  | .finite _ 0 _ => true
  | _ => false

/-- The signed numerator of a number over the denominator `2 ^ (- e)`, for `e` at most its
exponent. -/
def numeratorAt (e : Int) (negative : Bool) (m : Nat) (q : Int) : Int :=
  let n : Int := m * Nat.pow 2 (q - e).toNat
  if negative then -n else n

/-- **The order of numbers**, exact; nothing is comparable with `nan`. -/
def compare? : Binary64 → Binary64 → Option Ordering
  | .nan _, _ => none
  | _, .nan _ => none
  | .infinite a, .infinite b => some (compare (!a) (!b))
  | .infinite a, .finite .. => some (if a then .lt else .gt)
  | .finite .., .infinite b => some (if b then .gt else .lt)
  | .finite a m q, .finite b n r =>
    let e := min q r
    some (compare (numeratorAt e a m q) (numeratorAt e b n r))

/-- The integer part of a finite number, toward zero. -/
def truncate? : Binary64 → Option Int
  | .finite negative m q =>
    let (num, den) := scale m q
    let n : Int := (num / den : Nat)
    some (if negative then -n else n)
  | _ => none

end Binary64

end ProseLinter
