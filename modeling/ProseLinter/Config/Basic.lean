import ProseLinter.RuleConfig

/-!
# Config/Basic — the settings of the linter

Which files to lint, how to report, and the rules with their configuration values, in order.
-/

namespace ProseLinter

/-- **The settings.**  The patterns of files are kept as they are given; whoever uses them needs
texts. -/
structure Config where
  path : Option String
  included : List Value
  excluded : List Value
  formatter : String
  color : Bool
  rules : List (String × Value)
  deriving BEq, Repr

namespace Config

/-- The patterns of files that are linted when nothing else is said. -/
def defaultIncluded : List String := ["**/*.md", "**/*.txt"]

/-- The patterns of files that are left out when nothing else is said. -/
def defaultExcluded : List String :=
  ["**/.*", "**/.git/**", "**/node_modules/**", "**/.venv/**", "**/venv/**", "build/**", "dist/**"]

/-- The report that is written when nothing else is said. -/
def defaultFormatter : String := "stylish"

/-- The settings without a configuration file. -/
def default : Config :=
  ⟨none, defaultIncluded.map .text, defaultExcluded.map .text, defaultFormatter, true, []⟩

/-- The texts that values are; another value is of the wrong kind. -/
def textsOf : List Value → Except ValueFault (List String)
  | [] => .ok []
  | .text s :: rest => do return s :: (← textsOf rest)
  | _ :: _ => .error .wrongKind

@[simp] theorem textsOf_map_text (ss : List String) : textsOf (ss.map .text) = .ok ss := by
  induction ss with
  | nil => rfl
  | cons s ss ih => simp [textsOf, ih, bind, Except.bind, pure, Except.pure]

/-- The configuration value of a rule; nothing for a rule that is not configured. -/
def ruleConfig (c : Config) (name : String) : Value := (c.rules.lookup name).getD .none

def severity (c : Config) (name : String) : Except Failure Severity :=
  Severity.ofConfig (c.ruleConfig name)

/-- The names among `names` whose rules are not off. -/
def enabledAmong (c : Config) : List String → Except Failure (List String)
  | [] => .ok []
  | name :: rest => do
    let s ← c.severity name
    let more ← c.enabledAmong rest
    return if s = .off then more else name :: more

/-- **The enabled rules**, in the order of the configuration. -/
def enabledRules (c : Config) : Except Failure (List String) :=
  c.enabledAmong (c.rules.map (·.1))

/-- The rules with some more switched on; a rule that is configured keeps its value. -/
def withRules (rules : List (String × Value)) : List String → List (String × Value)
  | [] => rules
  | name :: rest =>
    withRules
      (if (rules.lookup name).isSome then rules else rules ++ [(name, .bool true)]) rest

end Config

end ProseLinter
