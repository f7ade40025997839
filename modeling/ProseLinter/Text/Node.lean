/-!
# Text/Node — the pieces of a text that rules look at
-/

namespace ProseLinter

/-- A piece of a text: its kind, its place `[start, stop)` in the text, its characters and the
number of its line, counted from one. -/
structure TextNode where
  kind : String
  start : Int
  stop : Int
  raw : List Char
  line : Int
  deriving DecidableEq, Repr, Inhabited

end ProseLinter
