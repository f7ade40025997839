import ProseLinter.Failure

/-!
# RuleConfig — what a configuration value says about a rule

A rule is configured by a truth value, by the name of a severity, or by a table of options that may
hold a severity.
-/

namespace ProseLinter

namespace Severity

/-- **The severity that a value names**: a severity, a name in any case, or a rank. -/
def ofValue : Value → Except Failure Severity
  | .severity s => .ok s
  | .text s =>
    match ofName? s with
    | some severity => .ok severity
    | none => .error (.unknownSeverity (.text s))
  | .int i =>
    match ofLevel? i with
    | some severity => .ok severity
    | none => .error (.unknownSeverity (.int i))
  | v => .error (.unknownSeverity v)

/-- A value that names no severity is the one that the failure tells about. -/
theorem eq_unknownSeverity_of_ofValue {v : Value} {e : Failure} (h : ofValue v = .error e) :
    e = .unknownSeverity v := by
  unfold ofValue at h
  split at h
  · cases h
  · split at h <;> simp_all
  · split at h <;> simp_all
  · simpa using h.symm

/-- **The severity of a rule** under a configuration value: off for nothing and for false, the named
one where there is one, and error for everything else. -/
def ofConfig : Value → Except Failure Severity
  | .none => .ok off
  | .bool b => .ok (if b then error else off)
  | .text s => ofValue (.text s)
  | .severity s => ofValue (.severity s)
  | .table entries =>
    match entries.lookup "severity" with
    | some v => ofValue v
    | none => .ok error
  | _ => .ok error

end Severity

/-- **The options of a rule**: the entries of its table, without the severity. -/
def ruleOptions : Value → List (String × Value)
  | .table entries => entries.filter fun e => e.1 != "severity"
  | _ => []

end ProseLinter
