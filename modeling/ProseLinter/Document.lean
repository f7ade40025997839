import ProseLinter.LineMap
import ProseLinter.Text.Class
import ProseLinter.Text.Node

/-!
# Document — a text, its nodes and its positions

A document is shown to rules as one node for the whole text and one node for each line.
-/

namespace ProseLinter

/-- A text, and the path of the file that it came from. -/
structure Document where
  text : List Char
  path : Option String
  deriving Repr

namespace Document

/-- The kind of the node of the whole text. -/
def wholeKind : String := "Document"

/-- The kind of the node of a line. -/
def lineKind : String := "Str"

/-- The kinds of nodes, each under its own name. -/
def kinds : List (String × String) := [(wholeKind, wholeKind), (lineKind, lineKind)]

/-- The lines of a text: what stands between line feeds, without an empty last line. -/
def lines (text : List Char) : List (List Char) :=
  let parts := Text.splitOn '\n' text
  if parts.getLast? = some [] then parts.dropLast else parts

/-- A line without a carriage return at its end. -/
def withoutReturn (line : List Char) : List Char :=
  if line.getLast? = some '\r' then line.dropLast else line

/-- The nodes of lines that follow each other, the first of which is line `number` and starts at
`start`.  A line feed stands after each line. -/
def lineNodes (start number : Nat) : List (List Char) → List TextNode
  | [] => []
  | line :: rest =>
    let raw := withoutReturn line
    ⟨lineKind, start, start + raw.length, raw, number⟩
      :: lineNodes (start + line.length + 1) (number + 1) rest

/-- **The nodes of a text**: the whole text, then line after line. -/
def nodes (text : List Char) : List TextNode :=
  ⟨wholeKind, 0, text.length, text, 1⟩ :: lineNodes 0 1 (lines text)

/-- The position of an offset in a text. -/
def position (text : List Char) (offset : Int) : Position := (LineMap.ofText text).position offset

/-- The offset of a position in a text. -/
def offset (text : List Char) (p : Position) : Int := (LineMap.ofText text).offset p

/-- There is one node for each line, and one for the text. -/
theorem length_nodes (text : List Char) : (nodes text).length = (lines text).length + 1 := by
  have h : ∀ (ls : List (List Char)) (s n : Nat), (lineNodes s n ls).length = ls.length := by
    intro ls
    induction ls with
    | nil => intro s n; rfl
    | cons l ls ih => intro s n; simp [lineNodes, ih]
  simp [nodes, h]

end Document

end ProseLinter
