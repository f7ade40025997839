import ProseLinter.Number.Integer

/-!
# Value/Moment — dates and times of day
-/

namespace ProseLinter

structure Date where
  year : Nat
  month : Nat
  day : Nat
  deriving DecidableEq, Repr, Inhabited

structure TimeOfDay where
  hour : Nat
  minute : Nat
  second : Nat
  microsecond : Nat
  deriving DecidableEq, Repr, Inhabited

/-- A date, a time of day, or both with an optional offset from universal time in minutes. -/
inductive Moment where
  | date (date : Date)
  | time (time : TimeOfDay)
  | dateTime (date : Date) (time : TimeOfDay) (offset : Option Int)
  deriving DecidableEq, Repr

namespace Date

def isLeap (year : Nat) : Bool := (year % 4 == 0 && year % 100 != 0) || year % 400 == 0

def daysIn (year month : Nat) : Nat :=
  if month = 2 then if isLeap year then 29 else 28
  else if month = 4 ∨ month = 6 ∨ month = 9 ∨ month = 11 then 30 else 31

/-- Whether the calendar has the date. -/
def isValid (d : Date) : Bool :=
  1 ≤ d.year && d.year ≤ 9999 && 1 ≤ d.month && d.month ≤ 12 && 1 ≤ d.day
    && d.day ≤ daysIn d.year d.month

/-- The days of the months before a month. -/
def daysBefore (year : Nat) : Nat → Nat
  | 0 => 0
  | month + 1 => daysBefore year month + (if month = 0 then 0 else daysIn year month)

/-- The number of a day, counted from the first day of year one. -/
def ordinal (d : Date) : Nat :=
  let y := d.year - 1
  y * 365 + y / 4 - y / 100 + y / 400 + daysBefore d.year d.month + d.day

end Date

namespace TimeOfDay

/-- The microseconds since midnight. -/
def microseconds (t : TimeOfDay) : Nat :=
  ((t.hour * 60 + t.minute) * 60 + t.second) * 1000000 + t.microsecond

end TimeOfDay

namespace Moment

/-- The microseconds from the first day to a time of a day that is `offset` minutes ahead of
universal time. -/
def instant (d : Date) (t : TimeOfDay) (offset : Int) : Int :=
  (d.ordinal : Int) * 86400000000 + t.microseconds - offset * 60000000

/-- **The order of moments.**  Moments of different kinds have none, and neither has a moment with
an offset and one without. -/
def compare? : Moment → Moment → Option Ordering
  | date d, date e => some (compare d.ordinal e.ordinal)
  | time t, time u => some (compare t.microseconds u.microseconds)
  | dateTime d t none, dateTime e u none => some (compare (instant d t 0) (instant e u 0))
  | dateTime d t (some a), dateTime e u (some b) => some (compare (instant d t a) (instant e u b))
  | _, _ => none

/-- Numbers with commas between them. -/
def numbers (ns : List Nat) : List Char :=
  Text.join ", ".toList (ns.map fun n => Nat.toDigits 10 n)

/-- The parts of a time that are shown: seconds and microseconds only as far as they matter. -/
def timeParts (t : TimeOfDay) : List Nat :=
  if t.microsecond ≠ 0 then [t.hour, t.minute, t.second, t.microsecond]
  else if t.second ≠ 0 then [t.hour, t.minute, t.second]
  else [t.hour, t.minute]

/-- An offset, as a count of whole days and of seconds after them. -/
def offsetText (minutes : Int) : List Char :=
  if minutes = 0 then ", tzinfo=datetime.timezone.utc".toList
  else
    let days := Int.fdiv minutes 1440
    let seconds := Int.fmod minutes 1440 * 60
    let parts :=
      (if days = 0 then [] else ["days=".toList ++ Integer.text days]) ++
      (if seconds = 0 then [] else ["seconds=".toList ++ Integer.text seconds])
    ", tzinfo=datetime.timezone(datetime.timedelta(".toList ++ Text.join ", ".toList parts
      ++ "))".toList

/-- A moment with its kind and its parts. -/
def text : Moment → List Char
  | date d => "datetime.date(".toList ++ numbers [d.year, d.month, d.day] ++ [')']
  | time t => "datetime.time(".toList ++ numbers (timeParts t) ++ [')']
  | dateTime d t offset =>
    "datetime.datetime(".toList ++ numbers ([d.year, d.month, d.day] ++ timeParts t)
      ++ (offset.map offsetText).getD [] ++ [')']

/-- The name of a moment's kind. -/
def kindName : Moment → String
  | date _ => "date"
  | time _ => "time"
  | dateTime .. => "datetime"

end Moment

end ProseLinter
