import ProseLinter.Fix

/-!
# Result — what a run found

Messages of single findings, the results for one file, and counts over them.
-/

namespace ProseLinter

/-- A problem: the rule that found it, its text, its place, its severity and its fix.  Line and
column count from one. -/
structure LintMessage where
  ruleId : String
  message : Value
  index : Int
  line : Int
  column : Int
  severity : Severity
  fix : Option Fix
  deriving BEq, Repr

/-- The messages for one file. -/
structure LintResult where
  path : String
  messages : List LintMessage
  deriving BEq, Repr

/-- What fixing one file came to: the fixed text, all messages, those whose fixes were applied and
those that are left. -/
structure FixResult where
  path : String
  output : List Char
  messages : List LintMessage
  applied : List LintMessage
  remaining : List LintMessage
  deriving BEq, Repr

/-- Counts over messages. -/
structure Summary where
  errors : Nat
  warnings : Nat
  fixable : Nat
  deriving DecidableEq, Repr

namespace Summary

def total (s : Summary) : Nat := s.errors + s.warnings

/-- **The counts** over messages: by severity, and of those that can be fixed. -/
def ofMessages (ms : List LintMessage) : Summary where
  errors := ms.countP fun m => m.severity == .error
  warnings := ms.countP fun m => m.severity == .warning
  fixable := ms.countP fun m => m.fix.isSome

@[simp] theorem total_ofMessages_nil : (ofMessages []).total = 0 := rfl

end Summary

namespace LintResult

/-- All messages, file after file. -/
def allMessages (results : List LintResult) : List LintMessage := results.flatMap (·.messages)

/-- Whether some message is an error. -/
def hasErrors (results : List LintResult) : Bool :=
  (allMessages results).any fun m => m.severity == .error

/-- There is an error when errors are counted. -/
theorem hasErrors_iff (results : List LintResult) :
    hasErrors results = true ↔ 0 < (Summary.ofMessages (allMessages results)).errors := by
  simp [hasErrors, Summary.ofMessages, List.countP_pos_iff]

end LintResult

/-- A count with its noun, which takes an `s` unless the count is one. -/
def counted (word : String) (n : Int) : List Char :=
  Integer.text n ++ ' ' :: word.toList ++ (if n = 1 then [] else ['s'])

end ProseLinter
