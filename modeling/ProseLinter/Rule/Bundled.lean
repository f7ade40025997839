import ProseLinter.Rule.Markers
import ProseLinter.Rule.TrailingSpaces

/-!
# Rule/Bundled — the rules that come with the linter
-/

namespace ProseLinter

/-- A rule that comes with the linter. -/
inductive BundledRule where
  | markers
  | trailingSpaces
  deriving DecidableEq, Repr

namespace BundledRule

/-- What the rule does. -/
def rule : BundledRule → Rule
  | markers => Markers.rule
  | trailingSpaces => TrailingSpaces.rule

/-- The name under which the rule is configured. -/
def name : BundledRule → String
  | markers => "no_todo"
  | trailingSpaces => "trailing_spaces"

end BundledRule

end ProseLinter
