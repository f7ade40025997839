import ProseLinter.Document
import ProseLinter.Fix
import ProseLinter.RuleConfig

/-!
# Context — one rule at work on one document

A context binds a rule to a document.  The rule's severity is read from its configuration once, when
the context is opened; every report of the rule goes through the context.
-/

namespace ProseLinter

/-- A report as it arrives at the linter. -/
structure Report where
  rule : String
  node : Value
  severity : Severity
  payload : Value
  deriving BEq, Repr

/-- A rule at work on a document. -/
structure Context where
  rule : String
  document : Document
  config : Value
  severity : Severity
  deriving Repr

namespace Context

/-- Opens a context for a rule that is configured by a value. -/
def ofConfig (rule : String) (document : Document) (config ruleConfig : Value) :
    Except Failure Context :=
  match Severity.ofConfig ruleConfig with
  | .ok severity => .ok ⟨rule, document, config, severity⟩
  | .error e => .error e

/-- **The severity of a report**: the rule's own for a finding; any other payload may ask for one,
and is an error if it does not. -/
def severityOf (context : Context) (payload : Value) : Except Failure Severity :=
  if payload.isFinding then .ok context.severity
  else
    match payload.field "severity" with
    | .none => .ok .error
    | asked =>
      match Severity.ofValue asked with
      | .ok severity => .ok severity
      | .error _ => .error (.misuse (.unknownSeverity context.rule asked))

/-- **Reporting** something found at a node. -/
def report (context : Context) (node payload : Value) : Except Failure Report :=
  if node.isFinding then .error (.misuse .findingAsNode)
  else
    match context.severityOf payload with
    | .ok severity => .ok ⟨context.rule, node, severity, payload⟩
    | .error e => .error e

/-- A report keeps what was handed in. -/
theorem report_eq {context : Context} {node payload : Value} {r : Report}
    (h : context.report node payload = .ok r) :
    r.rule = context.rule ∧ r.node = node ∧ r.payload = payload := by
  unfold report at h
  split at h
  · cases h
  · split at h
    · cases h; exact ⟨rfl, rfl, rfl⟩
    · cases h

end Context

/-- A context with the configuration that it was opened with, which may change behind its back, and
the reports so far. -/
structure Session where
  context : Context
  ruleConfig : Value
  sink : List Report
  deriving Repr

namespace Session

/-- The properties of a context that a rule may read. -/
inductive Property where
  | id
  | severity
  | config
  | source
  | path
  | kinds
  deriving DecidableEq, Repr

/-- One step of a session. -/
inductive Step where
  | read (property : Property)
  /-- Writes a severity into the configuration value, after the context was opened. -/
  | setSeverity (value : Value)
  | report (node payload : Value)
  deriving BEq, Repr

/-- What a step gives. -/
inductive Answer where
  | value (value : Value)
  | reports (added : List Report)
  deriving BEq, Repr

/-- A session on a fresh context. -/
def ofConfig (rule : String) (document : Document) (config ruleConfig : Value) :
    Except Failure Session :=
  match Context.ofConfig rule document config ruleConfig with
  | .ok context => .ok ⟨context, ruleConfig, []⟩
  | .error e => .error e

/-- The value of a property. -/
def property (s : Session) : Property → Value
  | .id => .text s.context.rule
  | .severity => .severity s.context.severity
  | .config => s.context.config
  | .source => .ofChars s.context.document.text
  | .path => (s.context.document.path.map Value.text).getD .none
  | .kinds => .table (Document.kinds.map fun k => (k.1, .text k.2))

/-- **One step**: the session after it, and its outcome. -/
def step (s : Session) : Step → Session × Except Failure Answer
  | .read p => (s, .ok (.value (s.property p)))
  | .setSeverity v =>
    match s.ruleConfig with
    | .table entries =>
      ({ s with ruleConfig := .table (insertEntry "severity" v entries) }, .ok (.value .none))
    | _ => (s, .error (.value .wrongKind))
  | .report node payload =>
    match s.context.report node payload with
    | .ok r => ({ s with sink := s.sink ++ [r] }, .ok (.reports [r]))
    | .error e => (s, .error e)

/-- No step changes the context. -/
@[simp] theorem context_step (s : Session) (a : Step) : (s.step a).1.context = s.context := by
  cases a with
  | read p => rfl
  | setSeverity v => simp only [step]; split <;> rfl
  | report n p => simp only [step]; split <;> rfl

end Session

end ProseLinter
