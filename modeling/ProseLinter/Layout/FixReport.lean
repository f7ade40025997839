import ProseLinter.Layout.LintReport

/-!
# Layout/FixReport — the layouts of fix results

Three layouts of what fixing came to: stylish, compact and json.
-/

namespace ProseLinter

namespace FixResult

/-- The JSON form of the fix result for one file. -/
def toJson (r : FixResult) : Except ValueFault Json := do
  let messages ← LintMessage.toJsonAll r.messages
  let applied ← LintMessage.toJsonAll r.applied
  let remaining ← LintMessage.toJsonAll r.remaining
  return .object [("filePath", .text r.path), ("output", .text (String.ofList r.output)),
    ("messages", .array messages), ("applyingMessages", .array applied),
    ("remainingMessages", .array remaining)]

def toJsonAll : List FixResult → Except ValueFault (List Json)
  | [] => .ok []
  | r :: rs => do return (← r.toJson) :: (← toJsonAll rs)

end FixResult

namespace Layout.FixStylish

/-- The line of a message, with a mark that says what became of it. -/
def messageLine (mark : Char) (color : Color) (m : LintMessage) : List Span :=
  [ .plain (Stylish.place m), .styled (.ofColor (some color)) [mark],
    .plain ([' ', ' '] ++ m.body ++ [' ', ' ']), .styled .dimmed m.ruleId.toList ]

/-- The lines of one file: its path, what was fixed, what is left, and an empty line. -/
def fileLines (r : FixResult) : List (List Span) :=
  if r.applied.isEmpty && r.remaining.isEmpty then []
  else
    [.styled .underlined r.path.toList] :: r.applied.map (messageLine '✔' .green)
      ++ r.remaining.map (messageLine '✖' .red) ++ [[]]

/-- **The stylish layout of fixes**; nothing at all when nothing was fixed and nothing is left. -/
def lines (results : List FixResult) : List (List Span) :=
  let fixed := (results.flatMap (·.applied)).length
  let remaining := (results.flatMap (·.remaining)).length
  if fixed = 0 ∧ remaining = 0 then []
  else
    results.flatMap fileLines
      ++ [.styled (.boldColor .green) ("✔ Fixed ".toList ++ counted "problem" fixed)]
      :: (if remaining = 0 then []
          else [[.styled (.boldColor .red)
            ("✖ Remaining ".toList ++ counted "problem" remaining)]])

end Layout.FixStylish

namespace Layout.FixCompact

/-- The line of a fix that was applied. -/
def messageLine (path : String) (m : LintMessage) : List Char :=
  path.toList ++ ": line ".toList ++ Integer.text m.line ++ ", col ".toList
    ++ Integer.text m.column ++ ", Fixed - ".toList ++ m.body ++ " (".toList ++ m.ruleId.toList
    ++ [')']

/-- **The compact layout of fixes**: those that were applied, an empty line and their count. -/
def lines (results : List FixResult) : List (List Span) :=
  let body := results.flatMap fun r => r.applied.map fun m => [Span.plain (messageLine r.path m)]
  body ++
    (if body.isEmpty then []
     else [[], [.plain ("Fixed ".toList ++ counted "problem" body.length)]])

end Layout.FixCompact

/-- **The json layout of fixes**: an array with an object for each file. -/
def Layout.fixJsonText (results : List FixResult) : Except ValueFault (List Char) := do
  return Json.write .indented (.array (← FixResult.toJsonAll results))

end ProseLinter
