import ProseLinter.Json.Basic
import ProseLinter.Number.Shortest
import ProseLinter.Value.Show

/-!
# Json/Described — values described in JSON

The described form of a value exists for every kind of value and tells most of them apart: numbers
with a fraction by their text, objects by their fields, and nodes, findings and edits by their
parts.
-/

namespace ProseLinter

/-- A node described by its parts. -/
def TextNode.described (n : TextNode) : Json :=
  .object
    [ ("type", .text n.kind), ("range", .array [.int n.start, .int n.stop]),
      ("raw", .text (String.ofList n.raw)), ("line", .int n.line) ]

mutual
/-- **The described form of a value.**  A finding is described with its text, which has to exist. -/
def Value.described : Value → Except ValueFault Json
  | .none => .ok .null
  | .bool b => .ok (.bool b)
  | .int i => .ok (.int i)
  | .float x => .ok (.object [("$float", .text (String.ofList x.text))])
  | .text s => .ok (.text s)
  | .list vs => (describedItems vs).map .array
  | .tuple vs => (describedItems vs).map .array
  | .table es => (describedEntries es).map .object
  | .severity s => .ok (.text s.name)
  | .object _ fs => do return .object [("obj", .object (← describedEntries fs))]
  | .node n => .ok n.described
  | .finding f => do
    let shown ← (Value.finding f).plain
    let message ← Value.described f.message
    let index ← Value.described f.index
    let line ← Value.described f.line
    let column ← Value.described f.column
    let fix ← Value.described f.fix
    return .object
      [ ("message", message), ("index", index), ("line", line), ("column", column), ("fix", fix),
        ("str", .text (String.ofList shown)) ]
  | .edit e => do
    let start ← Value.described e.start
    let stop ← Value.described e.stop
    let text ← Value.described e.text
    return .object [("fix", .object [("range", .array [start, stop]), ("text", text)])]
  | .moment m => .ok (.object [("type", .text m.kindName)])
def describedItems : List Value → Except ValueFault (List Json)
  | [] => .ok []
  | v :: vs => do return (← Value.described v) :: (← describedItems vs)
def describedEntries : List (String × Value) → Except ValueFault (List (String × Json))
  | [] => .ok []
  | (k, v) :: es => do return (k, ← Value.described v) :: (← describedEntries es)
end

end ProseLinter
