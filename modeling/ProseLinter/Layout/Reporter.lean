import ProseLinter.Layout.FixReport

/-!
# Layout/Reporter — the layouts by name

What a run gives to a report is either lint results or fix results; each layout is made for one of
the two.
-/

namespace ProseLinter

/-- What there is to report. -/
inductive Results where
  | lint (results : List LintResult)
  | fix (results : List FixResult)
  deriving BEq, Repr

namespace Results

/-- The number of files. -/
def count : Results → Nat
  | lint rs => rs.length
  | fix rs => rs.length

end Results

/-- A layout that comes with the linter. -/
inductive Reporter where
  | stylish
  | compact
  | unix
  | json
  | fixStylish
  | fixCompact
  | fixJson
  deriving DecidableEq, Repr

namespace Reporter

/-- Checks that the texts of messages can be written before they are. -/
def checked (ms : List LintMessage) (text : List Char) : Except ValueFault (List Char) := do
  LintMessage.checkBodies ms
  return text

/-- **The report** in a layout, with the codes of a styler.  Results of the other kind lack what the
layout asks for. -/
def formatWith (reporter : Reporter) (styler : Layout.Styler) (colors : Bool) (results : Results) :
    Except ValueFault (List Char) :=
  match reporter, results with
  | stylish, .lint rs =>
    checked (LintResult.allMessages rs) (Layout.render styler colors (Layout.Stylish.lines rs))
  | compact, .lint rs =>
    checked (LintResult.allMessages rs) (Layout.render styler colors (Layout.Compact.lines rs))
  | unix, .lint rs =>
    checked (LintResult.allMessages rs) (Layout.render styler colors (Layout.Unix.lines rs))
  | json, .lint rs => Layout.jsonText rs
  | fixStylish, .fix rs =>
    checked (rs.flatMap fun r => r.applied ++ r.remaining)
      (Layout.render styler colors (Layout.FixStylish.lines rs))
  | fixCompact, .fix rs =>
    checked (rs.flatMap (·.applied)) (Layout.render styler colors (Layout.FixCompact.lines rs))
  | fixJson, .fix rs => Layout.fixJsonText rs
  | _, _ => .error .missingField

/-- The report with the codes of terminals. -/
def format (reporter : Reporter) (colors : Bool) (results : Results) :
    Except ValueFault (List Char) :=
  reporter.formatWith .terminal colors results

end Reporter

end ProseLinter
