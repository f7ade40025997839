import ProseLinter.Json.Writer
import ProseLinter.Layout.Styled
import ProseLinter.Result

/-!
# Layout/LintReport — the layouts of lint results

Four layouts: **stylish**, grouped by file; **compact** and **unix**, one line for each message; and
**json**, one object for each file.
-/

namespace ProseLinter

namespace LintMessage

/-- The text of a message as it appears in a line. -/
def body (m : LintMessage) : List Char := m.message.inMessage

/-- Checks that the places and the texts of messages can be written, one message after the other. -/
def checkBodies : List LintMessage → Except ValueFault Unit
  | [] => .ok ()
  | m :: ms => do
    let _ ← (Value.int m.line).plain
    let _ ← (Value.int m.column).plain
    let _ ← m.message.plain
    checkBodies ms

/-- The JSON form of a message, with the fix if there is one. -/
def toJson (m : LintMessage) : Except ValueFault Json := do
  let message ← m.message.toJson
  let index ← (Value.int m.index).toJson
  let line ← (Value.int m.line).toJson
  let column ← (Value.int m.column).toJson
  let fix ← match m.fix with
    | none => pure []
    | some e => do
      let start ← e.start.toJson
      let stop ← e.stop.toJson
      let text ← e.text.toJson
      pure [("fix", Json.object [("range", .array [start, stop]), ("text", text)])]
  return .object ([("ruleId", .text m.ruleId), ("message", message), ("index", index),
    ("line", line), ("column", column), ("severity", .text m.severity.name)] ++ fix)

/-- The JSON forms of messages. -/
def toJsonAll : List LintMessage → Except ValueFault (List Json)
  | [] => .ok []
  | m :: ms => do return (← m.toJson) :: (← toJsonAll ms)

end LintMessage

namespace LintResult

/-- The JSON form of the results for one file. -/
def toJson (r : LintResult) : Except ValueFault Json := do
  let messages ← LintMessage.toJsonAll r.messages
  return .object [("filePath", .text r.path), ("messages", .array messages)]

def toJsonAll : List LintResult → Except ValueFault (List Json)
  | [] => .ok []
  | r :: rs => do return (← r.toJson) :: (← toJsonAll rs)

end LintResult

namespace Severity

/-- The name of a severity with a capital. -/
def title : Severity → String
  | off => "Off"
  | warning => "Warning"
  | error => "Error"

/-- The colour in which a severity is named. -/
def color : Severity → Option Layout.Color
  | off => none
  | warning => some .yellow
  | error => some .red

end Severity

namespace Layout

/-- The colour of a closing line: red when there are errors. -/
def alarm (hasErrors : Bool) : Color := if hasErrors then .red else .yellow

namespace Stylish

/-- `line:column` after two blanks, and two blanks. -/
def place (m : LintMessage) : List Char :=
  ' ' :: ' ' :: Integer.text m.line ++ ':' :: Integer.text m.column ++ [' ', ' ']

/-- The line of a message. -/
def messageLine (m : LintMessage) : List Span :=
  [ .plain (place m), .styled (.ofColor m.severity.color) m.severity.name.toList,
    .plain ([' ', ' '] ++ m.body ++ [' ', ' ']), .styled .dimmed m.ruleId.toList ] ++
  (if m.fix.isSome then [.styled (.ofColor (some .green)) " ✓".toList] else [])

/-- The lines of one file: its path, its messages, and an empty line. -/
def fileLines (r : LintResult) : List (List Span) :=
  if r.messages.isEmpty then []
  else [.styled .underlined r.path.toList] :: r.messages.map messageLine ++ [[]]

/-- The count of problems, errors and warnings. -/
def problems (s : Summary) : List Char :=
  "✖ ".toList ++ counted "problem" s.total ++ " (".toList ++ counted "error" s.errors
    ++ ", ".toList ++ counted "warning" s.warnings ++ [')']

/-- The count of problems that can be fixed. -/
def fixables (n : Nat) : List Char :=
  "✓ ".toList ++ Integer.text n ++ " fixable problem".toList ++ (if n = 1 then [] else ['s'])
    ++ ['.']

/-- **The stylish layout**; nothing at all when nothing counts as a problem. -/
def lines (results : List LintResult) : List (List Span) :=
  let s := Summary.ofMessages (LintResult.allMessages results)
  if s.total = 0 then []
  else
    results.flatMap fileLines
      ++ [.styled (.boldColor (alarm (s.errors ≠ 0))) (problems s)]
      :: (if s.fixable = 0 then [] else [[.styled (.boldColor .green) (fixables s.fixable)]])

end Stylish

namespace Compact

/-- The line of a message in a file. -/
def messageLine (path : String) (m : LintMessage) : List Char :=
  path.toList ++ ": line ".toList ++ Integer.text m.line ++ ", col ".toList
    ++ Integer.text m.column ++ ", ".toList ++ m.severity.title.toList ++ " - ".toList ++ m.body
    ++ " (".toList ++ m.ruleId.toList ++ [')']

/-- **The compact layout**: the messages, an empty line and the count of problems. -/
def lines (results : List LintResult) : List (List Span) :=
  let total := (Summary.ofMessages (LintResult.allMessages results)).total
  let body := results.flatMap fun r => r.messages.map fun m => [Span.plain (messageLine r.path m)]
  let color := alarm (LintResult.hasErrors results)
  let footer := .styled (.boldColor color) (counted "problem" total)
  body ++ (if total = 0 then [] else [[], [footer]])

end Compact

namespace Unix

/-- The line of a message in a file. -/
def messageLine (path : String) (m : LintMessage) : List Char :=
  path.toList ++ ':' :: Integer.text m.line ++ ':' :: Integer.text m.column ++ ": ".toList
    ++ m.body ++ " [".toList ++ m.severity.title.toList ++ '/' :: m.ruleId.toList ++ [']']

/-- **The unix layout**: the messages, an empty line and their count. -/
def lines (results : List LintResult) : List (List Span) :=
  let total := (LintResult.allMessages results).length
  let body := results.flatMap fun r => r.messages.map fun m => [Span.plain (messageLine r.path m)]
  body ++ (if total = 0 then [] else [[], [.plain (counted "problem" total)]])

end Unix

/-- **The json layout**: an array with an object for each file. -/
def jsonText (results : List LintResult) : Except ValueFault (List Char) := do
  return Json.write .indented (.array (← LintResult.toJsonAll results))

end Layout

end ProseLinter
