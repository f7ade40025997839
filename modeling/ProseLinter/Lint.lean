import ProseLinter.Rule.Basic
import ProseLinter.Result

/-!
# Lint — running rules on a document

The rules are set up in order; then every node of the document is shown to every rule.  Each report
that is not switched off becomes a message with a place in the text, and the messages are sorted by
place and rule.
-/

namespace ProseLinter

/-- A rule with the name under which it is configured and its configuration. -/
structure ConfiguredRule where
  name : String
  rule : Rule
  config : Value

namespace Lint

/-- The rules set up on a document: the reports of the setup, and what is to see the nodes. -/
def setUp (document : Document) (config : Value) :
    List ConfiguredRule → Except Failure (List Report × List Handlers)
  | [] => .ok ([], [])
  | r :: rs => do
    let context ← Context.ofConfig r.name document config r.config
    let handlers ← r.rule context (ruleOptions r.config)
    let (reports, dispatch) ← setUp document config rs
    return (handlers.reports ++ reports, handlers :: dispatch)

/-- The reports that the rules make at one node. -/
def atNode (n : TextNode) : List Handlers → Except Failure (List Report)
  | [] => .ok []
  | h :: hs => do
    let first ← h.onNode n
    return first ++ (← atNode n hs)

/-- The reports that the rules make at nodes, node after node. -/
def atNodes (dispatch : List Handlers) : List TextNode → Except Failure (List Report)
  | [] => .ok []
  | n :: ns => do
    let first ← atNode n dispatch
    return first ++ (← atNodes dispatch ns)

/-- **All reports** on a document, in the order in which they are made. -/
def reports (document : Document) (config : Value) (rules : List ConfiguredRule) :
    Except Failure (List Report) := do
  let (first, dispatch) ← setUp document config rules
  return first ++ (← atNodes dispatch (Document.nodes document.text))

/-- The offset at which a node starts; a node without a range starts at zero. -/
def startOf (node : Value) : Except ValueFault Int :=
  match node.field "range" with
  | .none => .ok 0
  | range => do (← range.item 0).toInt

/-- The text of a report: a finding's message as it is, else the message or the whole payload as
text. -/
def messageOf : Value → Except ValueFault Value
  | .finding f => .ok f.message
  | payload =>
    match payload.field "message" with
    | .none => payload.plain.map Value.ofChars
    | m => m.plain.map Value.ofChars

/-- **The offset of a report**: the payload's index counts from the node; its line and column count
from the node's position, the column from the node only on the same line. -/
def offsetOf (lines : LineMap) (start : Int) (payload : Value) : Except ValueFault Int :=
  match payload.field "index" with
  | .none =>
    match payload.field "line" with
    | .none => .ok start
    | line => do
      let base := lines.position start
      let column := payload.field "column"
      let column ← if column.truth then column.toInt else .ok 0
      let line ← line.toInt
      return lines.offset
        ⟨base.line + line, if line = 0 then base.column + column else column + 1⟩
  | index => do return start + (← index.toInt)

/-- The fix of a report: one that is made already, or a table with a range and a text. -/
def fixOf (payload : Value) : Except Failure (Option Fix) :=
  match payload.field "fix" with
  | .none => .ok none
  | .edit e => .ok (some e)
  | v => do
    let range ← Fix.lift (← Fix.lift (v.entry "range")).items
    let text ← Fix.lift (v.entry "text")
    return some (← Fix.ofRange (.tuple range) text)

/-- **The message of a report**: its text, and its place in the text. -/
def messageFor (lines : LineMap) (r : Report) : Except Failure LintMessage := do
  let start ← Fix.lift (startOf r.node)
  let message ← Fix.lift (messageOf r.payload)
  let index ← Fix.lift (offsetOf lines start r.payload)
  let fix ← fixOf r.payload
  let position := lines.position index
  return ⟨r.rule, message, index, position.line, position.column, r.severity, fix⟩

/-- The messages of reports that are not switched off. -/
def messagesFor (lines : LineMap) : List Report → Except Failure (List LintMessage)
  | [] => .ok []
  | r :: rs =>
    if r.severity = .off then messagesFor lines rs
    else do return (← messageFor lines r) :: (← messagesFor lines rs)

/-- The order of messages: by line, then by column, then by the name of the rule. -/
def before (a b : LintMessage) : Bool :=
  if a.line ≠ b.line then decide (a.line < b.line)
  else if a.column ≠ b.column then decide (a.column < b.column)
  else decide (¬ b.ruleId < a.ruleId)

/-- **Linting a document.**  Messages at one place from one rule stay in the order of the
reports. -/
def run (document : Document) (config : Value) (rules : List ConfiguredRule) :
    Except Failure (List LintMessage) := do
  let reports ← reports document config rules
  let messages ← messagesFor (.ofText document.text) reports
  return messages.mergeSort before

end Lint

end ProseLinter
