import ProseLinter.Rule.Basic

/-!
# Rule/TrailingSpaces — blanks at the end of a line

The rule reports each line that ends in spaces or tabs, with the fix that removes them.
-/

namespace ProseLinter.TrailingSpaces

/-- The characters that should not end a line. -/
def isTrailing (c : Char) : Bool := c == ' ' || c == '\t'

/-- A line without the spaces and tabs at its end. -/
def trimmed (raw : List Char) : List Char := (raw.reverse.dropWhile isTrailing).reverse

/-- What the rule makes of one line. -/
def onLine (context : Context) (skipBlank : Bool) (n : TextNode) :
    Except Failure (List Report) := do
  let kept := (trimmed n.raw).length
  if kept = n.raw.length then return []
  if skipBlank && kept == 0 then return []
  let range := Value.tuple [.int (n.start + kept), .int (n.start + n.raw.length)]
  let fix ← Fix.Method.call ⟨.remove, false⟩ range .none
  let finding := Value.finding
    ⟨.text "Trailing whitespace", .int kept, .none, .none, .edit fix⟩
  return [← context.report (.node n) finding]

/-- **The rule.**  With `skip_blank_lines` it leaves lines alone that hold nothing else. -/
def rule : Rule := fun context options =>
  let skipBlank := ((options.lookup "skip_blank_lines").getD (.bool false)).truth
  .ok ⟨[], [(Document.lineKind, onLine context skipBlank)]⟩

/-- A line is its trimmed part followed by spaces and tabs. -/
theorem trimmed_append (raw : List Char) :
    trimmed raw ++ (raw.reverse.takeWhile isTrailing).reverse = raw := by
  rw [trimmed, ← List.reverse_append, List.takeWhile_append_dropWhile, List.reverse_reverse]

end ProseLinter.TrailingSpaces
