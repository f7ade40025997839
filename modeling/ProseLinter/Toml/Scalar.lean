import ProseLinter.Toml.Text
import ProseLinter.Number.Reader

/-!
# Toml/Scalar — numbers, dates and times
-/

namespace ProseLinter.Toml

/-- The number of exactly `count` decimal digits. -/
def fixedDigits? (count : Nat) (cs : List Char) : Option (Nat × List Char) :=
  let digits := cs.take count
  if digits.length = count && digits.all Char.isDigit then
    some (Integer.ofDigits (digits.map fun c => c.toNat - '0'.toNat), cs.drop count)
  else none

/-- What follows a character. -/
def after? (c : Char) : List Char → Option (List Char)
  | d :: rest => if d = c then some rest else none
  | [] => none

/-- The microseconds of a fraction: six digits count, more are read and dropped. -/
def fraction (cs : List Char) : Nat × List Char :=
  match cs with
  | '.' :: rest =>
    let digits := rest.takeWhile Char.isDigit
    if digits.isEmpty then (0, cs)
    else
      let six := (digits ++ List.replicate 6 '0').take 6
      (Integer.ofDigits (six.map fun c => c.toNat - '0'.toNat), rest.dropWhile Char.isDigit)
  | _ => (0, cs)

/-- A time of day. -/
def timeOfDay? (cs : List Char) : Option (TimeOfDay × List Char) := do
  let (hour, cs) ← fixedDigits? 2 cs
  guard (hour ≤ 23)
  let (minute, cs) ← fixedDigits? 2 (← after? ':' cs)
  guard (minute ≤ 59)
  let (second, cs) ← fixedDigits? 2 (← after? ':' cs)
  guard (second ≤ 59)
  let (micro, cs) := fraction cs
  return (⟨hour, minute, second, micro⟩, cs)

/-- The offset from universal time, in minutes. -/
def offset? (cs : List Char) : Option (Int × List Char) :=
  match cs with
  | c :: rest =>
    if c = 'Z' ∨ c = 'z' then some (0, rest)
    else if c = '+' ∨ c = '-' then do
      let (hour, cs) ← fixedDigits? 2 rest
      guard (hour ≤ 23)
      let (minute, cs) ← fixedDigits? 2 (← after? ':' cs)
      guard (minute ≤ 59)
      let total : Int := hour * 60 + minute
      return (if c = '-' then -total else total, cs)
    else none
  | [] => none

/-- Four digits, a month and a day, which need not make a date. -/
def dateLike? (cs : List Char) : Option (Date × List Char) := do
  let (year, cs) ← fixedDigits? 4 cs
  let (month, cs) ← fixedDigits? 2 (← after? '-' cs)
  guard (1 ≤ month ∧ month ≤ 12)
  let (day, cs) ← fixedDigits? 2 (← after? '-' cs)
  guard (1 ≤ day ∧ day ≤ 31)
  return (⟨year, month, day⟩, cs)

/-- The time after a date, with its offset. -/
def timeAfterDate? (cs : List Char) : Option (TimeOfDay × Option Int × List Char) :=
  match cs with
  | c :: rest =>
    if c = 'T' ∨ c = 't' ∨ c = ' ' then do
      let (time, rest) ← timeOfDay? rest
      match offset? rest with
      | some (offset, rest) => return (time, some offset, rest)
      | none => return (time, none, rest)
    else none
  | [] => none

/-- **A date, a time, or both**, where one stands in front. -/
def moment? (cs : List Char) : Option (Except Fault (Moment × List Char)) :=
  match dateLike? cs with
  | some (date, rest) =>
    some
      (if date.isValid then
        match timeAfterDate? rest with
        | some (time, offset, rest) => .ok (.dateTime date time offset, rest)
        | none => .ok (.date date, rest)
      else fail .moment cs)
  | none => (timeOfDay? cs).map fun (time, rest) => .ok (.time time, rest)

/-! ## Numbers -/

/-- The digits of a base with single underscores between them, and what is left. -/
def baseDigits (isDigit : Char → Bool) : List Char → List Char × List Char
  | '_' :: c :: cs =>
    if isDigit c then
      let (ds, rest) := baseDigits isDigit cs
      (c :: ds, rest)
    else ([], '_' :: c :: cs)
  | c :: cs =>
    if isDigit c then
      let (ds, rest) := baseDigits isDigit cs
      (c :: ds, rest)
    else ([], c :: cs)
  | [] => ([], [])

/-- A number of a base, after its mark. -/
def based? (base : Nat) (cs : List Char) : Option (Nat × List Char) :=
  let isDigit : Char → Bool := fun c =>
    ((Text.hexValue? c).map fun d => decide (d < base)).getD false
  match cs with
  | c :: rest =>
    if isDigit c then
      let (ds, rest) := baseDigits isDigit rest
      some ((c :: ds).foldl (fun n d => n * base + (Text.hexValue? d).getD 0) 0, rest)
    else none
  | [] => none

/-- A number with a mark of its base in front. -/
def marked? : List Char → Option (Nat × List Char)
  | '0' :: 'x' :: cs => based? 16 cs
  | '0' :: 'b' :: cs => based? 2 cs
  | '0' :: 'o' :: cs => based? 8 cs
  | _ => none

/-- Digits after a mark such as a point; without digits the mark is left. -/
def digitsAfter? (cs : List Char) : Option (List Nat × List Char) :=
  match Binary64.leadingDigits false cs with
  | ([], _) => none
  | (ds, rest) => some (ds, rest)

/-- The fraction of a number. -/
def fractionPart? : List Char → Option (List Nat × List Char)
  | '.' :: cs => digitsAfter? cs
  | _ => none

/-- The exponent of a number. -/
def exponentPart? : List Char → Option (Int × List Char)
  | c :: cs =>
    if c = 'e' ∨ c = 'E' then
      let (negative, body) := Integer.splitSign cs
      (digitsAfter? body).map fun (ds, rest) =>
        (if negative then -(Integer.ofDigits ds : Int) else Integer.ofDigits ds, rest)
    else none
  | [] => none

/-- The digits before the point: a lone zero, or digits of which the first is none. -/
def wholePart? : List Char → Option (List Nat × List Char)
  | '0' :: cs => some ([0], cs)
  | cs => digitsAfter? cs

/-- **A number**, where one stands in front: an integer, or a decimal with a fraction or an
exponent. -/
def number? (cs : List Char) : Option (Except Fault (Value × List Char)) :=
  match marked? cs with
  | some (n, rest) => some (.ok (.int n, rest))
  | none =>
    let (negative, body) := Integer.splitSign cs
    match wholePart? body with
    | none => none
    | some (whole, rest) =>
      match fractionPart? rest, exponentPart? rest with
      | none, none =>
        let n : Int := Integer.ofDigits whole
        some
          (if Integer.maxDigits < whole.length then fail .tooManyDigits rest
           else .ok (.int (if negative then -n else n), rest))
      | none, some (e, rest) =>
        some (.ok (.float (.ofDecimal negative (Integer.ofDigits whole) e), rest))
      | some (part, rest), _ =>
        let (e, rest) := (exponentPart? rest).getD (0, rest)
        some (.ok (.float (.ofDecimal negative (Integer.ofDigits (whole ++ part))
          (e - part.length)), rest))

/-- The names of infinity and of the absence of a number, which is told apart from others of its
kind by its place. -/
def special? (cs : List Char) : Option (Value × List Char) :=
  let (negative, body) := Integer.splitSign cs
  if "inf".toList.isPrefixOf body then some (.float (.infinite negative), body.drop 3)
  else if "nan".toList.isPrefixOf body then some (.float (.nan body.length), body.drop 3)
  else none

end ProseLinter.Toml
