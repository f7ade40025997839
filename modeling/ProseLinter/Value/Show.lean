import ProseLinter.Text.Quoted
import ProseLinter.Number.Shortest
import ProseLinter.Value.Basic

/-!
# Value/Show — values as text

A value has two texts: the **quoted** one, which shows its shape, and the **plain** one, which gives
texts as they are.
-/

namespace ProseLinter

namespace TextNode

def quoted (n : TextNode) : List Char :=
  "TextNode(type=".toList ++ Text.quote n.kind.toList
    ++ ", range=(".toList ++ Integer.text n.start ++ ", ".toList ++ Integer.text n.stop
    ++ "), raw=".toList ++ Text.quote n.raw ++ ", line=".toList ++ Integer.text n.line ++ [')']

end TextNode

namespace Severity

/-- The name of a severity in capitals. -/
def capitals (s : Severity) : List Char := s.name.toList.map Char.toUpper

/-- A severity as a member of its enumeration. -/
def member (s : Severity) : List Char := "Severity.".toList ++ s.capitals

end Severity

namespace Value

/-- Items between brackets; a lone item of a tuple has a comma after it. -/
def bracketed (parts : List (List Char)) : List Char := '[' :: Text.join ", ".toList parts ++ [']']

def parenthesised : List (List Char) → List Char
  | [part] => '(' :: part ++ [',', ')']
  | parts => '(' :: Text.join ", ".toList parts ++ [')']

mutual
/-- **The quoted text** of a value. -/
def quoted : Value → List Char
  | none => "None".toList
  | bool b => if b then "True".toList else "False".toList
  | int i => Integer.text i
  | float x => x.text
  | text s => Text.quote s.toList
  | list items => bracketed (quotedItems items)
  | tuple items => parenthesised (quotedItems items)
  | table entries => '\x7b' :: Text.join ", ".toList (quotedEntries entries) ++ ['\x7d']
  | severity s => '<' :: s.member ++ ": ".toList ++ Text.quote s.name.toList ++ ['>']
  | object .. => "<obj>".toList
  | node n => n.quoted
  | finding f =>
    "RuleError(message=".toList ++ quoted f.message ++ ", index=".toList ++ quoted f.index
      ++ ", line=".toList ++ quoted f.line ++ ", column=".toList ++ quoted f.column
      ++ ", fix=".toList ++ quoted f.fix ++ [')']
  | edit e =>
    "FixCommand(range=(".toList ++ quoted e.start ++ ", ".toList ++ quoted e.stop
      ++ "), text=".toList ++ quoted e.text ++ [')']
  | moment m => m.text
def quotedItems : List Value → List (List Char)
  | [] => []
  | v :: vs => quoted v :: quotedItems vs
def quotedEntries : List (String × Value) → List (List Char)
  | [] => []
  | (k, v) :: es => (Text.quote k.toList ++ ": ".toList ++ quoted v) :: quotedEntries es
end

mutual
/-- Whether all integers in a value have few enough digits to be written. -/
def isWritable : Value → Bool
  | int i => Integer.isWritable i
  | list items => areWritable items
  | tuple items => areWritable items
  | table entries => entriesAreWritable entries
  | finding f =>
    isWritable f.message && isWritable f.index && isWritable f.line && isWritable f.column
      && isWritable f.fix
  | edit e => isWritable e.start && isWritable e.stop && isWritable e.text
  | _ => true
def areWritable : List Value → Bool
  | [] => true
  | v :: vs => isWritable v && areWritable vs
def entriesAreWritable : List (String × Value) → Bool
  | [] => true
  | (_, v) :: es => isWritable v && entriesAreWritable es
end

/-- The quoted text of a value that can be written. -/
def written (v : Value) : Except ValueFault (List Char) :=
  if v.isWritable then .ok v.quoted else .error .tooManyDigits

/-- Two digits of a date or a time. -/
def twoDigits (n : Nat) : List Char :=
  let digits := Nat.toDigits 10 n
  List.replicate (2 - digits.length) '0' ++ digits

/-- A date in the order year, month, day. -/
def dateText (d : Date) : List Char :=
  let year := Nat.toDigits 10 d.year
  List.replicate (4 - year.length) '0' ++ year ++ '-' :: twoDigits d.month
    ++ '-' :: twoDigits d.day

def timeText (t : TimeOfDay) : List Char :=
  let micro := Nat.toDigits 10 t.microsecond
  twoDigits t.hour ++ ':' :: twoDigits t.minute ++ ':' :: twoDigits t.second
    ++ (if t.microsecond = 0 then [] else '.' :: (List.replicate (6 - micro.length) '0' ++ micro))

/-- The distance from universal time, as hours and minutes. -/
def zoneText (minutes : Int) : List Char :=
  (if minutes < 0 then '-' else '+') :: twoDigits (minutes.natAbs / 60)
    ++ ':' :: twoDigits (minutes.natAbs % 60)

/-- A moment in the order of a log: the date, the time, the offset. -/
def momentText : Moment → List Char
  | .date d => dateText d
  | .time t => timeText t
  | .dateTime d t offset => dateText d ++ ' ' :: timeText t ++ (offset.map zoneText).getD []

/-- **The plain text** of a value.  A finding is shown by its message, which has to be a text. -/
def plain : Value → Except ValueFault (List Char)
  | text s => .ok s.toList
  | severity s => .ok s.member
  | finding f =>
    match f.message with
    | text s => .ok s.toList
    | _ => .error .wrongKind
  | moment m => .ok (momentText m)
  | v => v.written

@[simp] theorem plain_text (s : String) : (text s).plain = .ok s.toList := rfl

end Value

end ProseLinter
