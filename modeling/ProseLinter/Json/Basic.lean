import ProseLinter.Number.Integer
import ProseLinter.Value.Basic

/-!
# Json/Basic — JSON values
-/

namespace ProseLinter

/-- A JSON value.  The members of an object keep their order. -/
inductive Json where
  | null
  | bool (b : Bool)
  | int (i : Int)
  | float (x : Binary64)
  | text (s : String)
  | array (items : List Json)
  | object (members : List (String × Json))
  deriving BEq, Repr, Inhabited

mutual
/-- The JSON form of a value; a value that is neither data nor a sequence has none, and neither has
an integer with too many digits. -/
def Value.toJson : Value → Except ValueFault Json
  | .none => .ok .null
  | .bool b => .ok (.bool b)
  | .int i => if Integer.isWritable i then .ok (.int i) else .error .tooManyDigits
  | .float x => .ok (.float x)
  | .text s => .ok (.text s)
  | .list vs => (toJsonItems vs).map .array
  | .tuple vs => (toJsonItems vs).map .array
  | .table es => (toJsonEntries es).map .object
  | _ => .error .wrongKind
def toJsonItems : List Value → Except ValueFault (List Json)
  | [] => .ok []
  | v :: vs => do return (← v.toJson) :: (← toJsonItems vs)
def toJsonEntries : List (String × Value) → Except ValueFault (List (String × Json))
  | [] => .ok []
  | (k, v) :: es => do return (k, ← v.toJson) :: (← toJsonEntries es)
end

end ProseLinter
