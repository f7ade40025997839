import ProseLinter.Severity
import ProseLinter.Number.Binary64
import ProseLinter.Text.Node
import ProseLinter.Value.Moment

/-!
# Value/Basic — the values of configurations and reports

Configurations are free-form, and a rule may hand anything to its report.  A **value** is one of the
shapes that can occur there; what an operation does with a value of the wrong shape is part of the
operation.
-/

namespace ProseLinter

/-- An edit of a text: put `text` in place of the range from `start` to `stop`. -/
structure Edit (α : Type) where
  start : α
  stop : α
  text : α
  deriving DecidableEq, BEq, Repr, Inhabited

/-- What a rule found at a node: a message, an address relative to the node, by offset or by line
and column, and an edit that mends it. -/
structure Finding (α : Type) where
  message : α
  index : α
  line : α
  column : α
  fix : α
  deriving DecidableEq, BEq, Repr, Inhabited

/-- **A value.**  A `table` has distinct keys, in the order in which they were put in; an `object`
has named fields but is no table, and is told apart from all others by its identity. -/
inductive Value where
  | none
  | bool (b : Bool)
  | int (i : Int)
  | float (x : Binary64)
  | text (s : String)
  | list (items : List Value)
  | tuple (items : List Value)
  | table (entries : List (String × Value))
  | severity (s : Severity)
  | object (identity : Nat) (fields : List (String × Value))
  | node (n : TextNode)
  | finding (f : Finding Value)
  | edit (e : Edit Value)
  | moment (m : Moment)
  deriving BEq, Repr, Inhabited

/-- The ways in which an operation on values fails. -/
inductive ValueFault where
  /-- The operation does not apply to values of this shape. -/
  | wrongKind
  /-- The shape is right and the value is not. -/
  | badValue
  /-- A table lacks the key. -/
  | missingKey
  /-- An object lacks the field. -/
  | missingField
  /-- A sequence is too short. -/
  | outOfBounds
  /-- A number is too large. -/
  | tooLarge
  /-- An integer has more digits than are written. -/
  | tooManyDigits
  /-- A text is nested too deeply. -/
  | tooDeep
  deriving DecidableEq, Repr

namespace Value

/-- The name of a value's shape. -/
def kindName : Value → String
  | none => "NoneType"
  | bool _ => "bool"
  | int _ => "int"
  | float _ => "float"
  | text _ => "str"
  | list _ => "list"
  | tuple _ => "tuple"
  | table _ => "dict"
  | severity _ => "Severity"
  | object .. => "Obj"
  | node _ => "TextNode"
  | finding _ => "RuleError"
  | edit _ => "FixCommand"
  | moment m => m.kindName

def isNone : Value → Bool
  | none => true
  | _ => false

def isFinding : Value → Bool
  | finding _ => true
  | _ => false

/-- A text from its characters. -/
def ofChars (cs : List Char) : Value := text (String.ofList cs)

/-- **Truth**: nothing, zero and what is empty count as false. -/
def truth : Value → Bool
  | none => false
  | bool b => b
  | int i => i != 0
  | float x => !x.isZero
  | text s => !s.isEmpty
  | list items => !items.isEmpty
  | tuple items => !items.isEmpty
  | table entries => !entries.isEmpty
  | _ => true

end Value

/-- Puts an entry into a table: a new key goes to the end, a known key keeps its place. -/
def insertEntry {α : Type} (key : String) (value : α) : List (String × α) → List (String × α)
  | [] => [(key, value)]
  | (k, v) :: rest => if k = key then (k, value) :: rest else (k, v) :: insertEntry key value rest

@[simp] theorem insertEntry_nil {α : Type} (key : String) (value : α) :
    insertEntry key value [] = [(key, value)] := rfl

/-- What was put in is found. -/
theorem lookup_insertEntry_self {α : Type} (key : String) (value : α)
    (entries : List (String × α)) : (insertEntry key value entries).lookup key = some value := by
  induction entries with
  | nil => simp
  | cons e rest ih =>
    obtain ⟨k, v⟩ := e
    by_cases h : k = key
    · simp [insertEntry, h]
    · have h' : (key == k) = false := by simpa using fun he => h he.symm
      simp [insertEntry, h, List.lookup_cons, h', ih]

/-- Other keys are left alone. -/
theorem lookup_insertEntry_of_ne {α : Type} {key other : String} (h : other ≠ key) (value : α)
    (entries : List (String × α)) :
    (insertEntry key value entries).lookup other = entries.lookup other := by
  induction entries with
  | nil =>
    have h' : (other == key) = false := by simpa using h
    simp [List.lookup_cons, h']
  | cons e rest ih =>
    obtain ⟨k, v⟩ := e
    by_cases hk : k = key
    · subst hk
      have h' : (other == k) = false := by simpa using h
      simp [insertEntry, List.lookup_cons, h']
    · by_cases ho : other = k
      · simp [insertEntry, hk, ho]
      · have h' : (other == k) = false := by simpa using ho
        simp [insertEntry, hk, List.lookup_cons, h', ih]

end ProseLinter
