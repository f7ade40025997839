import ProseLinter.Failure
import ProseLinter.Value.Access
import ProseLinter.Value.Order

/-!
# Fix — edits that mend a text

A fix is an edit of the source text.  The **methods** of the fixer make one from a node or from a
range; both are free-form values, whose two ends are turned into integers.
-/

namespace ProseLinter

/-- A fix: an edit whose ends and text are values, as whoever asked for it gave them. -/
abbrev Fix := Edit Value

namespace Fix

/-- **A fix of a range**, unless the range starts after its end. -/
def make (start stop text : Value) : Except Failure Fix :=
  match start.greater stop with
  | .error fault => .error (.value fault)
  | .ok true => .error (EditFault.reversed start stop).failure
  | .ok false => .ok ⟨start, stop, text⟩

/-- The two ends that a value holds as items; any other number of items is a bad value. -/
def endsOf (range : Value) : Except Failure (Value × Value) :=
  match range.items with
  | .error fault => .error (.value fault)
  | .ok [start, stop] => .ok (start, stop)
  | .ok _ => .error (.value .badValue)

/-- A fix of a range that is kept as it is given. -/
def ofRange (range text : Value) : Except Failure Fix :=
  match endsOf range with
  | .error e => .error e
  | .ok (start, stop) => make start stop text

/-- A failure of an operation on values. -/
def lift {α : Type} : Except ValueFault α → Except Failure α
  | .ok a => .ok a
  | .error fault => .error (.value fault)

/-- **What a range answers** when it is asked for its items, and for the item at a place.  A value
answers so, and so may anything else that is looked into by numbers. -/
structure Target where
  items : Except ValueFault (List Value)
  item : Nat → Except ValueFault Value

namespace Target

/-- A value as a range. -/
def ofValue (v : Value) : Target := ⟨v.items, v.item⟩

/-- Two offsets as a range. -/
def ofEnds (start stop : Int) : Target := ofValue (.tuple [.int start, .int stop])

/-- The number of items. -/
def count (t : Target) : Except ValueFault Nat := t.items.map List.length

end Target

/-- **The range that is meant**: two items, as integers, the first not after the second. -/
def range (t : Target) : Except Failure (Int × Int) := do
  let n ← lift t.count
  if n ≠ 2 then
    throw (EditFault.wrongCount (← lift t.items)).failure
  let start ← lift (← lift (t.item 0)).toInt
  let stop ← lift (← lift (t.item 1)).toInt
  if stop < start then
    throw (EditFault.reversed (.int start) (.int stop)).failure
  return (start, stop)

/-- The range value of a node: the entry of a table, or the field of anything else. -/
def rangeOfNode : Value → Except Failure Value
  | .table entries => lift ((Value.table entries).entry "range")
  | v => lift (v.fieldNamed "range")

/-- What a method of the fixer does with the range that it is given. -/
inductive Action where
  | insertAfter
  | insertBefore
  | replace
  | remove
  deriving DecidableEq, Repr

/-- A method of the fixer: what it does, and whether it is given a node or a range. -/
structure Method where
  action : Action
  onNode : Bool
  deriving DecidableEq, Repr

/-- An insertion at an offset; it has to insert something. -/
def insertAt (offset : Int) (text : Value) : Except Failure Fix :=
  if text.truth then make (.int offset) (.int offset) text else .error (.edit .emptyInsertion)

/-- What an action makes of a range. -/
def Action.on (action : Action) (t : Target) (text : Value) : Except Failure Fix := do
  let (start, stop) ← range t
  match action with
  | .insertAfter => insertAt stop text
  | .insertBefore => insertAt start text
  | .replace => make (.int start) (.int stop) text
  | .remove => make (.int start) (.int stop) (.text "")

/-- What an action makes of a node that gives a range, which is turned into two offsets first. -/
def Action.onNode (action : Action) (node : Except Failure Target) (text : Value) :
    Except Failure Fix := do
  let (start, stop) ← range (← node)
  action.on (.ofEnds start stop) text

/-- **A call of the fixer.** -/
def Method.call (m : Method) (target text : Value) : Except Failure Fix :=
  if m.onNode then m.action.onNode ((rangeOfNode target).map .ofValue) text
  else m.action.on (.ofValue target) text

end Fix

end ProseLinter
