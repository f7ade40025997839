import Mathlib.Data.Int.Notation
import Mathlib.Data.List.Nodup
import Mathlib.Data.Nat.Notation
import ProseLinter.Json.Basic
import ProseLinter.Text.Hex

/-!
# Proofs/Json/Grammar — which texts are JSON, and of what

`Json.Spells` is the grammar of JSON: a text spells a value, with blanks wherever the grammar has
room for them.  It says nothing about numbers with a fraction, which no value here has.  A
**reader** (`Json.IsReader`) is any function that finds the value of every text of JSON, as long as
the value is one on which readers agree: objects with distinct keys and integers that are not too
long.
-/

namespace ProseLinter.Json

/-! ## Tokens -/

/-- The blanks of JSON. -/
def isBlank (c : Char) : Bool := c == ' ' || c == '\t' || c == '\n' || c == '\r'

/-- The letters that stand for characters after a backslash. -/
def shorthands : List (Char × Char) :=
  [ ('"', '"'), ('\\', '\\'), ('/', '/'), ('b', '\x08'), ('f', '\x0c'), ('n', '\n'), ('r', '\r'),
    ('t', '\t') ]

/-- Four digits that spell a number in base sixteen. -/
def IsUnit (ds : List Char) (n : ℕ) : Prop := ds.length = 4 ∧ Text.readHex? ds = some n

/-- **How a character is spelled** inside a text: by itself, by a letter after a backslash, by its
number, or by a pair of surrogates. -/
inductive SpellsChar : List Char → Char → Prop
  | itself {c : Char} : 0x20 ≤ c.toNat → c ≠ '"' → c ≠ '\\' → SpellsChar [c] c
  | shorthand {e c : Char} : (e, c) ∈ shorthands → SpellsChar ['\\', e] c
  | unit {ds : List Char} {c : Char} : IsUnit ds c.toNat → SpellsChar ('\\' :: 'u' :: ds) c
  | pair {ds es : List Char} {high low : ℕ} {c : Char} : IsUnit ds high → IsUnit es low →
      0xD800 ≤ high → high < 0xDC00 → 0xDC00 ≤ low → low < 0xE000 →
      c.toNat = 0x10000 + (high - 0xD800) * 0x400 + (low - 0xDC00) →
      SpellsChar ('\\' :: 'u' :: ds ++ '\\' :: 'u' :: es) c

/-- The characters between the quotes of a text. -/
inductive SpellsChars : List Char → List Char → Prop
  | nil : SpellsChars [] []
  | cons {ds es cs : List Char} {c : Char} : SpellsChar ds c → SpellsChars es cs →
      SpellsChars (ds ++ es) (c :: cs)

/-- Digits of a number in base ten: no zero stands in front of others. -/
structure IsNumeral (ds : List Char) (n : ℕ) : Prop where
  digits : ∀ d ∈ ds, d.isDigit = true
  ne_nil : ds ≠ []
  first : ds.head? = some '0' → ds.length = 1
  value : Nat.ofDigitChars 10 ds 0 = n

/-- **How an integer is spelled.** -/
inductive SpellsInt : List Char → ℤ → Prop
  | plain {ds : List Char} {n : ℕ} : IsNumeral ds n → SpellsInt ds n
  | negative {ds : List Char} {n : ℕ} : IsNumeral ds n → SpellsInt ('-' :: ds) (-n)

/-! ## Values -/

/-- Pieces with commas between them; a lone blank text lists nothing. -/
inductive Listed {α : Type} (P : List Char → α → Prop) : List Char → List α → Prop
  | none {cs : List Char} : cs.all isBlank = true → Listed P cs []
  | last {cs : List Char} {a : α} : P cs a → Listed P cs [a]
  | next {cs rest : List Char} {a b : α} {as : List α} : P cs a → Listed P rest (b :: as) →
      Listed P (cs ++ ',' :: rest) (a :: b :: as)

/-- A key, a colon and a value. -/
inductive IsMember (P : List Char → Json → Prop) : List Char → String × Json → Prop
  | mk {ks vs : List Char} {k : String} {j : Json} : P ks (.text k) → P vs j →
      IsMember P (ks ++ ':' :: vs) (k, j)

mutual
/-- **A text spells a value**, with blanks around it. -/
inductive Spells : List Char → Json → Prop
  | mk {before cs after : List Char} {j : Json} : before.all isBlank = true → Bare cs j →
      after.all isBlank = true → Spells (before ++ cs ++ after) j
/-- A text spells a value, from its first character to its last. -/
inductive Bare : List Char → Json → Prop
  | null : Bare "null".toList .null
  | yes : Bare "true".toList (.bool true)
  | no : Bare "false".toList (.bool false)
  | int {cs : List Char} {i : ℤ} : SpellsInt cs i → Bare cs (.int i)
  | text {cs : List Char} {s : String} : SpellsChars cs s.toList → Bare ('"' :: cs ++ ['"']) (.text s)
  | array {cs : List Char} {items : List Json} : Listed Spells cs items →
      Bare ('[' :: cs ++ [']']) (.array items)
  | object {cs : List Char} {members : List (String × Json)} : Listed (IsMember Spells) cs members →
      Bare ('\x7b' :: cs ++ ['\x7d']) (.object members)
end

/-! ## Readers -/

mutual
/-- Whether readers agree on a value. -/
def isPortable : Json → Bool
  | float _ => false
  | int i => Integer.isWritable i
  | array items => arePortable items
  | object members => decide (members.map (·.1)).Nodup && membersArePortable members
  | _ => true
def arePortable : List Json → Bool
  | [] => true
  | j :: js => isPortable j && arePortable js
def membersArePortable : List (String × Json) → Bool
  | [] => true
  | (_, j) :: ms => isPortable j && membersArePortable ms
end

/-- **A reader** finds the value that a text spells. -/
def IsReader (read : List Char → Option Json) : Prop :=
  ∀ cs j, j.isPortable = true → Spells cs j → read cs = some j

end ProseLinter.Json
