import ProseLinter.Config.Basic

/-!
# Config/Validate — settings from a table

Every entry is checked on its own.  A **defect** tells which entry cannot be used and why; settings
come from a table without defects only.
-/

namespace ProseLinter

/-- Why an entry of a configuration table cannot be used. -/
inductive Defect where
  /-- Patterns have to be a list of texts. -/
  | patterns (key : String) (found : String)
  | formatter
  | color
  | rulesNoTable
  | rule (name : String) (found : String)
  | ruleSeverity (name : String) (asked : Value)
  deriving BEq, Repr

namespace Defect

def text : Defect → List Char
  | patterns key found =>
    key.toList ++ " must be a list of strings, got ".toList ++ found.toList
  | formatter => "formatter must be a non-empty string".toList
  | color => "color must be a boolean".toList
  | rulesNoTable => "rules must be a table".toList
  | rule name found =>
    "rules.".toList ++ name.toList ++ " must be a boolean, severity or table, got ".toList
      ++ found.toList
  | ruleSeverity name asked =>
    "rules.".toList ++ name.toList ++ ": ".toList ++ unknownSeverityText asked

end Defect

namespace Config

/-- What an entry gives: its value, or its defects and the value that stands in for it. -/
structure Checked (α : Type) where
  value : α
  defects : List Defect

/-- Patterns: a list of texts; a tuple is taken as it is. -/
def checkPatterns (entries : List (String × Value)) (key : String) (standard : List String) :
    Checked (List Value) :=
  match entries.lookup key with
  | none => ⟨standard.map .text, []⟩
  | some (.list items) =>
    match textsOf items with
    | .ok _ => ⟨items, []⟩
    | .error _ => ⟨standard.map .text, [.patterns key "list"]⟩
  | some (.tuple items) => ⟨items, []⟩
  | some v => ⟨standard.map .text, [.patterns key v.kindName]⟩

def checkFormatter (entries : List (String × Value)) : Checked String :=
  match entries.lookup "formatter" with
  | none => ⟨defaultFormatter, []⟩
  | some (.text s) => if s.isEmpty then ⟨defaultFormatter, [.formatter]⟩ else ⟨s, []⟩
  | some _ => ⟨defaultFormatter, [.formatter]⟩

def checkColor (entries : List (String × Value)) : Checked Bool :=
  match entries.lookup "color" with
  | none => ⟨true, []⟩
  | some (.bool b) => ⟨b, []⟩
  | some _ => ⟨true, [.color]⟩

/-- What is wrong with the configuration value of a rule. -/
def ruleDefect (name : String) (v : Value) : Option Defect :=
  let graded : Option Defect :=
    match Severity.ofConfig v with
    | .ok _ => none
    | .error (.unknownSeverity asked) => some (.ruleSeverity name asked)
    | .error _ => none
  match v with
  | .bool _ => graded
  | .text _ => graded
  | .table _ => graded
  | v => some (.rule name v.kindName)

def checkRules (entries : List (String × Value)) : Checked (List (String × Value)) :=
  match entries.lookup "rules" with
  | none => ⟨[], []⟩
  | some (.table rules) =>
    ⟨rules.filter fun r => (ruleDefect r.1 r.2).isNone, rules.filterMap fun r => ruleDefect r.1 r.2⟩
  | some _ => ⟨[], [.rulesNoTable]⟩

/-- **The defects of a table**, in the order of the settings. -/
def defects (entries : List (String × Value)) : List Defect :=
  (checkPatterns entries "include" defaultIncluded).defects
    ++ (checkPatterns entries "exclude" defaultExcluded).defects
    ++ (checkFormatter entries).defects ++ (checkColor entries).defects
    ++ (checkRules entries).defects

end Config

/-- Why there are no settings. -/
inductive ConfigFault where
  | defects (found : List Defect)
  /-- The file is no TOML; the text says where. -/
  | syntaxFault (text : List Char)
  | unreadable (fault : FileFault)
  deriving BEq, Repr

/-- Why there are no settings, and the file that they were to come from. -/
structure ConfigError where
  fault : ConfigFault
  path : Option String
  deriving BEq, Repr

/-- What may go wrong on the way to the settings: a reported error, or another failure. -/
inductive ConfigFailure where
  | rejected (error : ConfigError)
  | failed (failure : Failure)
  deriving BEq, Repr

namespace ConfigError

/-- **The message** of a configuration error. -/
def text (e : ConfigError) : List Char :=
  match e.fault with
  | .defects found =>
    Text.join ['\n'] ("Configuration errors:".toList :: found.map fun d => "  - ".toList ++ d.text)
  | .syntaxFault text => "Invalid TOML: ".toList ++ text
  | .unreadable fault => "Cannot read config file: ".toList ++ fault.text (e.path.getD "")

end ConfigError

namespace Config

/-- **Settings from a value**, which has to be a table.  All defects are reported at once. -/
def ofValue (path : Option String) : Value → Except ConfigFailure Config
  | .table entries =>
    match defects entries with
    | [] =>
      .ok ⟨path, (checkPatterns entries "include" defaultIncluded).value,
        (checkPatterns entries "exclude" defaultExcluded).value, (checkFormatter entries).value,
        (checkColor entries).value, (checkRules entries).value⟩
    | found => .error (.rejected ⟨.defects found, path⟩)
  | _ => .error (.failed (.value .missingField))

/-- A table with defects gives no settings, and every defect is told. -/
theorem ofValue_eq_rejected {path : Option String} {entries : List (String × Value)}
    (h : defects entries ≠ []) :
    ofValue path (.table entries) = .error (.rejected ⟨.defects (defects entries), path⟩) := by
  simp only [ofValue]

end Config

end ProseLinter
