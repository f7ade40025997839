import ProseLinter.Context

/-!
# Rule/Basic — what a rule is

A rule is set up once for a document.  It may report at once, and it gives a handler for each kind
of node that it wants to see.
-/

namespace ProseLinter

/-- What a rule does with one node: the reports it makes, in order. -/
abbrev Handler := TextNode → Except Failure (List Report)

/-- A rule that is set up: its first reports, and its handlers by kind of node. -/
structure Handlers where
  reports : List Report
  byKind : List (String × Handler)

/-- **A rule**: how it is set up in a context, with its options. -/
abbrev Rule := Context → List (String × Value) → Except Failure Handlers

namespace Handlers

/-- A rule that does nothing. -/
def idle : Handlers := ⟨[], []⟩

/-- What a rule that is set up does with a node. -/
def onNode (h : Handlers) (n : TextNode) : Except Failure (List Report) :=
  match h.byKind.lookup n.kind with
  | some handler => handler n
  | none => .ok []

end Handlers

end ProseLinter
