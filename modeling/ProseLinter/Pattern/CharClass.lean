/-!
# Pattern/CharClass — the characters between brackets in a pattern

What stands between brackets is cut into **chunks** at the hyphens that make ranges: a hyphen makes
one when there is a character before it that no earlier range has used, and a character after it.  A
range whose ends are in the wrong order is dropped with its ends.
-/

namespace ProseLinter

/-- A character of a class, or a range of them. -/
inductive ClassItem where
  | one (c : Char)
  | range (low high : Char)
  deriving DecidableEq, Repr

namespace ClassItem

def contains : ClassItem → Char → Bool
  | one d, c => c == d
  | range low high, c => decide (low ≤ c) && decide (c ≤ high)

end ClassItem

/-- A class: the characters of its items, or all others. -/
structure CharClass where
  negated : Bool
  items : List ClassItem
  deriving DecidableEq, Repr

namespace CharClass

def contains (k : CharClass) (c : Char) : Bool := (k.items.any (·.contains c)) != k.negated

/-- Cuts a text at the hyphens that make ranges; the first `skip` characters are none of them. -/
def chunksFrom (skip : Nat) (cs : List Char) : List (List Char) :=
  let front := cs.take skip ++ (cs.drop skip).takeWhile (· ≠ '-')
  match h : (cs.drop skip).dropWhile (· ≠ '-') with
  | [] => [front]
  | _ :: rest =>
    have : rest.length < cs.length := by
      have h₁ := (List.dropWhile_sublist (l := cs.drop skip) (· ≠ '-')).length_le
      rw [h] at h₁
      simp only [List.length_cons, List.length_drop] at h₁
      omega
    front :: chunksFrom 2 rest
termination_by cs.length

/-- The last hyphen makes no range when nothing follows it. -/
def closeChunks : List (List Char) → List (List Char)
  | [] => []
  | [chunk] => [chunk]
  | [chunk, []] => [chunk ++ ['-']]
  | chunk :: next :: rest => chunk :: closeChunks (next :: rest)

/-- Drops the ranges whose ends are in the wrong order, from the last to the first. -/
def dropReversed : List (List Char) → List (List Char)
  | [] => []
  | chunk :: rest =>
    match dropReversed rest with
    | [] => [chunk]
    | next :: more =>
      match chunk.getLast?, next with
      | some low, high :: after =>
        if high < low then (chunk.dropLast ++ after) :: more else chunk :: next :: more
      | _, _ => chunk :: next :: more

/-- The characters of chunks, and `none` for each hyphen between two chunks. -/
def marks : List (List Char) → List (Option Char)
  | [] => []
  | [chunk] => chunk.map some
  | chunk :: rest => chunk.map some ++ none :: marks rest

/-- The items that characters and hyphens stand for. -/
def itemsOf : List (Option Char) → List ClassItem
  | some low :: none :: some high :: rest => .range low high :: itemsOf rest
  | some c :: rest => .one c :: itemsOf rest
  | none :: rest => .one '-' :: itemsOf rest
  | [] => []

/-- **The class between brackets.**  An exclamation mark in front negates what follows it. -/
def ofContent (content : List Char) : CharClass :=
  let skip := if content.head? = some '!' then 2 else 1
  match marks (dropReversed (closeChunks (chunksFrom skip content))) with
  | some '!' :: rest => ⟨true, itemsOf rest⟩
  | ms => ⟨false, itemsOf ms⟩

end CharClass

end ProseLinter
