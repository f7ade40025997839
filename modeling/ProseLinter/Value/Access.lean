import ProseLinter.Number.Integer
import ProseLinter.Value.Basic

/-!
# Value/Access — looking into values

Fields, keys, items, counts and integer parts.  Each operation says which shapes it applies to and
how it fails on the others.
-/

namespace ProseLinter.Value

/-- The fields that a value offers besides those of a table. -/
def fields : Value → List (String × Value)
  | object _ fs => fs
  | node n =>
    [("type", text n.kind), ("range", tuple [int n.start, int n.stop]), ("raw", ofChars n.raw),
      ("line", int n.line)]
  | finding f =>
    [("message", f.message), ("index", f.index), ("line", f.line), ("column", f.column),
      ("fix", f.fix)]
  | edit e => [("range", tuple [e.start, e.stop]), ("text", e.text)]
  | _ => []

/-- The entry of a table or the field of another value; `none` where there is none. -/
def field (key : String) : Value → Value
  | table entries => (entries.lookup key).getD none
  | v => (v.fields.lookup key).getD none

/-- The field of a value that is no table. -/
def fieldNamed (name : String) (v : Value) : Except ValueFault Value :=
  match v.fields.lookup name with
  | some x => .ok x
  | .none => .error .missingField

/-- The entry of a table at a key. -/
def entry (key : String) : Value → Except ValueFault Value
  | table entries =>
    match entries.lookup key with
    | some v => .ok v
    | .none => .error .missingKey
  | _ => .error .wrongKind

/-- The items of a list, a tuple, a text (its characters) or a table (its keys). -/
def items : Value → Except ValueFault (List Value)
  | list vs => .ok vs
  | tuple vs => .ok vs
  | text s => .ok (s.toList.map fun c => ofChars [c])
  | table entries => .ok (entries.map fun e => text e.1)
  | _ => .error .wrongKind

/-- The item at a place; the keys of a table are texts, so that no place is one of them. -/
def item (i : Nat) : Value → Except ValueFault Value
  | table _ => .error .missingKey
  | v => do
    match (← v.items)[i]? with
    | some x => pure x
    | .none => throw .outOfBounds

/-- The integer that a value stands for: numbers lose their fraction and texts are read. -/
def toInt : Value → Except ValueFault Int
  | bool b => .ok (if b then 1 else 0)
  | int i => .ok i
  | float x =>
    match x with
    | .nan _ => .error .badValue
    | .infinite _ => .error .tooLarge
    | _ =>
      match x.truncate? with
      | some i => .ok i
      | .none => .error .badValue
  | text s =>
    match Integer.read? s.toList with
    | some i => .ok i
    | .none => .error .badValue
  | _ => .error .wrongKind

end ProseLinter.Value
