/-!
# Severity — how serious a finding is

Three levels, ordered, with the names under which a configuration may ask for them.
-/

namespace ProseLinter

/-- How serious a finding is. -/
inductive Severity where
  | off
  | warning
  | error
  deriving DecidableEq, Repr, Inhabited

namespace Severity

/-- The rank of a severity: off below warning below error. -/
def level : Severity → Nat
  | off => 0
  | warning => 1
  | error => 2

/-- The name of a severity in reports. -/
def name : Severity → String
  | off => "off"
  | warning => "warning"
  | error => "error"

/-- The names that a configuration may use. -/
def aliases : List (String × Severity) :=
  [("error", error), ("off", off), ("warn", warning), ("warning", warning)]

/-- A text with the capital letters of ASCII made small. -/
def lowerCase (s : String) : String := String.ofList (s.toList.map Char.toLower)

/-- The severity of a name, in any case. -/
def ofName? (s : String) : Option Severity := aliases.lookup (lowerCase s)

/-- The severity of a rank. -/
def ofLevel? (i : Int) : Option Severity := [off, warning, error].find? fun s => s.level = i

end Severity

end ProseLinter
