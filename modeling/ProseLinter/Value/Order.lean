import ProseLinter.Value.Basic

/-!
# Value/Order — which of two values is greater

Numbers compare with numbers, texts with texts, moments of one kind with each other, and lists with
lists and tuples with tuples, item by item; nothing else has an order.
-/

namespace ProseLinter.Value

/-- The number that a value is, truth values being zero and one. -/
def number? : Value → Option Binary64
  | bool b => some (.ofInt (if b then 1 else 0))
  | int i => some (.ofInt i)
  | float x => some x
  | _ => .none

/-- Equality of values that hold no others, numbers by their worth. -/
def sameAtom : Value → Value → Bool
  | float (.nan a), float (.nan b) => a == b
  | object a _, object b _ => a == b
  | moment m, moment n => m.compare? n == some .eq
  | v, w =>
    match v.number?, w.number? with
    | some x, some y => x.compare? y == some .eq
    | .none, .none => v == w
    | _, _ => false

mutual
/-- **Equality of values** as items: tables in any order of their keys, objects by their identity,
findings and edits part by part. -/
def same : Value → Value → Bool
  | list vs, list ws => sameItems vs ws
  | tuple vs, tuple ws => sameItems vs ws
  | table es, table fs => es.length == fs.length && sameEntries es fs
  | finding f, finding g =>
    same f.message g.message && same f.index g.index && same f.line g.line
      && same f.column g.column && same f.fix g.fix
  | edit e, edit f => same e.start f.start && same e.stop f.stop && same e.text f.text
  | v, w => sameAtom v w
def sameItems : List Value → List Value → Bool
  | [], [] => true
  | v :: vs, w :: ws => same v w && sameItems vs ws
  | _, _ => false
/-- Whether a table has equal entries for all of some entries. -/
def sameEntries : List (String × Value) → List (String × Value) → Bool
  | [], _ => true
  | (k, v) :: es, fs =>
    (match fs.lookup k with
      | some w => same v w
      | .none => false) && sameEntries es fs
end

/-- Greater among values that hold no others. -/
def greaterAtom : Value → Value → Except ValueFault Bool
  | int i, int j => .ok (decide (j < i))
  | text s, text t => .ok (decide (t < s))
  | moment m, moment n =>
    match m.compare? n with
    | some o => .ok (o == .gt)
    | .none => .error .wrongKind
  | v, w =>
    match v.number?, w.number? with
    | some x, some y => .ok (x.compare? y == some .gt)
    | _, _ => .error .wrongKind

mutual
/-- **Greater**: whether the first value comes after the second. -/
def greater : Value → Value → Except ValueFault Bool
  | list vs, list ws => greaterItems vs ws
  | tuple vs, tuple ws => greaterItems vs ws
  | v, w => greaterAtom v w
/-- Lists compare at the first place where they differ, and else by their length. -/
def greaterItems : List Value → List Value → Except ValueFault Bool
  | [], _ => .ok false
  | _ :: _, [] => .ok true
  | v :: vs, w :: ws => if same v w then greaterItems vs ws else greater v w
end

@[simp] theorem greater_int (i j : Int) : greater (int i) (int j) = .ok (decide (j < i)) := by
  simp [greater, greaterAtom]

end ProseLinter.Value
