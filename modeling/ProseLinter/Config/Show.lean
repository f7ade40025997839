import ProseLinter.Config.Basic
import ProseLinter.Fix
import ProseLinter.Json.Writer

/-!
# Config/Show — settings as text and as JSON
-/

namespace ProseLinter.Config

/-- Texts with commas between them. -/
def listed (vs : List Value) : Except Failure (List Char) := do
  let texts ← Fix.lift (textsOf vs)
  return Text.join ", ".toList (texts.map String.toList)

/-- The line of a rule: its name and its severity in capitals. -/
def ruleLine (c : Config) (name : String) : Except Failure (List Char) := do
  let s ← c.severity name
  return ' ' :: ' ' :: name.toList ++ ": ".toList ++ s.capitals

def ruleLines (c : Config) : List String → Except Failure (List (List Char))
  | [] => .ok []
  | name :: rest => do return (← c.ruleLine name) :: (← c.ruleLines rest)

/-- **The settings for a reader.**  Of the exclusions the first five are shown. -/
def toText (c : Config) : Except Failure (List Char) := do
  let included ← listed c.included
  let excluded ← listed (c.excluded.take 5)
  let rules ← c.ruleLines (c.rules.map (·.1))
  return Text.join ['\n'] <|
    [ "textguard Configuration".toList, List.replicate 40 '=', [],
      "Config file: ".toList ++ (c.path.getD "(defaults)").toList, [],
      "File Discovery:".toList,
      "  Include: ".toList ++ included,
      "  Exclude: ".toList ++ excluded
        ++ (if 5 < c.excluded.length then "...".toList else []), [],
      "Output:".toList,
      "  Formatter: ".toList ++ c.formatter.toList,
      "  Color: ".toList ++ (Value.bool c.color).quoted, [],
      "Rules:".toList ] ++
    (if c.rules.isEmpty then ["  (none)".toList] else []) ++ rules

/-- The settings as a JSON value. -/
def toJson (c : Config) : Except ValueFault Json := do
  let included ← toJsonItems c.included
  let excluded ← toJsonItems c.excluded
  let rules ← toJsonEntries c.rules
  return .object
    [ ("config_path", (c.path.map Json.text).getD .null),
      ("include", .array included), ("exclude", .array excluded),
      ("formatter", .text c.formatter), ("color", .bool c.color), ("rules", .object rules) ]

/-- **The settings as JSON text.** -/
def toJsonText (c : Config) : Except ValueFault (List Char) :=
  c.toJson.map (Json.write .indented)

end ProseLinter.Config
