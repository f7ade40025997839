import ProseLinter.Json.Basic
import ProseLinter.Number.Shortest
import ProseLinter.Text.Hex

/-!
# Json/Writer — JSON values as text

The text is made of ASCII characters alone: all others are escaped, those above `U+FFFF` as a pair
of surrogates.  A value is written on one line, or with each item on a line of its own.
-/

namespace ProseLinter.Json

/-- How items are set out. -/
inductive Spacing where
  /-- On one line, with a blank after each comma. -/
  | inline
  /-- On lines of their own, two blanks deeper than the brackets. -/
  | indented
  deriving DecidableEq, Repr

/-- An escaped unit of 16 bits. -/
def unit (n : Nat) : List Char := '\\' :: 'u' :: Text.hex 4 n

/-- A character inside a JSON text. -/
def escape (c : Char) : List Char :=
  let n := c.toNat
  if c = '"' then ['\\', '"']
  else if c = '\\' then ['\\', '\\']
  else if c = '\n' then ['\\', 'n']
  else if c = '\r' then ['\\', 'r']
  else if c = '\t' then ['\\', 't']
  else if n = 8 then ['\\', 'b']
  else if n = 12 then ['\\', 'f']
  else if 32 ≤ n ∧ n ≤ 126 then [c]
  else if n < 0x10000 then unit n
  else
    let m := n - 0x10000
    unit (0xD800 + m / 0x400) ++ unit (0xDC00 + m % 0x400)

/-- A text in double quotes. -/
def quote (cs : List Char) : List Char := '"' :: cs.flatMap escape ++ ['"']

/-- A number; infinity and the absence of a number have names. -/
def number (x : Binary64) : List Char :=
  match x with
  | .nan _ => "NaN".toList
  | .infinite negative => if negative then "-Infinity".toList else "Infinity".toList
  | x => x.text

/-- What stands before an item at a depth. -/
def Spacing.before (spacing : Spacing) (depth : Nat) : List Char :=
  match spacing with
  | inline => []
  | indented => '\n' :: List.replicate (2 * depth) ' '

/-- What stands between two items at a depth. -/
def Spacing.between (spacing : Spacing) (depth : Nat) : List Char :=
  match spacing with
  | inline => [',', ' ']
  | indented => ',' :: indented.before depth

/-- Items between brackets that stand at a depth. -/
def bracketed (spacing : Spacing) (depth : Nat) (opening closing : Char)
    (parts : List (List Char)) : List Char :=
  match parts with
  | [] => [opening, closing]
  | parts =>
    opening :: spacing.before (depth + 1) ++ Text.join (spacing.between (depth + 1)) parts
      ++ spacing.before depth ++ [closing]

mutual
/-- **The text of a JSON value** that stands at a depth. -/
def writeAt (spacing : Spacing) (depth : Nat) : Json → List Char
  | null => "null".toList
  | bool b => if b then "true".toList else "false".toList
  | int i => Integer.text i
  | float x => number x
  | text s => quote s.toList
  | array items => bracketed spacing depth '[' ']' (writeItems spacing (depth + 1) items)
  | object members =>
    bracketed spacing depth '\x7b' '\x7d' (writeMembers spacing (depth + 1) members)
def writeItems (spacing : Spacing) (depth : Nat) : List Json → List (List Char)
  | [] => []
  | j :: js => writeAt spacing depth j :: writeItems spacing depth js
def writeMembers (spacing : Spacing) (depth : Nat) : List (String × Json) → List (List Char)
  | [] => []
  | (k, j) :: ms =>
    (quote k.toList ++ ':' :: ' ' :: writeAt spacing depth j) :: writeMembers spacing depth ms
end

/-- The text of a JSON value. -/
def write (spacing : Spacing) (j : Json) : List Char := writeAt spacing 0 j

end ProseLinter.Json
