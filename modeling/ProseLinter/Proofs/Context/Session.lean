import Mathlib
import ProseLinter.Context

/-!
# Proofs/Context/Session — a context through a whole session

A session reads properties, writes severities into the configuration value behind the context's
back, and reports.  Its **transcript** lists the steps with what each of them gave.

`Session.after_lawful` says what holds of every session, in whichever order its steps come: the
severity stays the one that the configuration had when the context was opened; the sink only grows
at its end, by one report for each report that is not misused; and a session without its writes has
the same transcript, but for the writes.
-/

namespace ProseLinter

/-! ## One report -/

namespace Context

variable {bound severity : Severity} {node payload : Value}

/-- **A misused report**: a finding stands where the node belongs, or another payload asks for
something that is no severity. -/
def Misused (node payload : Value) : Prop :=
  node.isFinding = true ∨ payload.isFinding = false ∧ payload.field "severity" ≠ .none ∧
    ∃ e, Severity.ofValue (payload.field "severity") = .error e

/-- **The severity that a payload is reported at**, where `bound` is that of the context. -/
inductive ReportedAt (bound : Severity) (payload : Value) : Severity → Prop
  | finding : payload.isFinding = true → ReportedAt bound payload bound
  | unasked : payload.isFinding = false → payload.field "severity" = .none →
      ReportedAt bound payload .error
  | asked {severity : Severity} : payload.isFinding = false → payload.field "severity" ≠ .none →
      Severity.ofValue (payload.field "severity") = .ok severity →
        ReportedAt bound payload severity

theorem severityOf_finding {context : Context} (h : payload.isFinding = true) :
    context.severityOf payload = .ok context.severity := by
  rw [severityOf, if_pos h]

theorem severityOf_unasked {context : Context} (h : payload.isFinding = false)
    (hnone : payload.field "severity" = .none) : context.severityOf payload = .ok .error := by
  rw [severityOf, if_neg (by simp [h]), hnone]

/-- A payload that asks for a severity has it, or is misused. -/
theorem severityOf_asked {context : Context} (h : payload.isFinding = false)
    (hasked : payload.field "severity" ≠ .none) :
    context.severityOf payload = (Severity.ofValue (payload.field "severity")).mapError
      fun _ => .misuse (.unknownSeverity context.rule (payload.field "severity")) := by
  rw [severityOf, if_neg (by simp [h])]
  split
  · contradiction
  · split <;> rename_i hvalue <;> rw [hvalue] <;> rfl

/-- **A report is refused exactly if it is misused**, and otherwise made with what was handed in. -/
theorem report_cases (context : Context) (node payload : Value) :
    (Misused node payload ∧ ∃ misuse, context.report node payload = .error (.misuse misuse)) ∨
      (¬ Misused node payload ∧ ∃ severity, ReportedAt context.severity payload severity ∧
        context.report node payload = .ok ⟨context.rule, node, severity, payload⟩) := by
  cases hnode : node.isFinding with
  | true => exact Or.inl ⟨Or.inl hnode, _, if_pos hnode⟩
  | false =>
    have hreport : context.report node payload = (context.severityOf payload).map fun severity =>
        ⟨context.rule, node, severity, payload⟩ := by
      rw [report, if_neg (by simp [hnode])]
      cases context.severityOf payload <;> rfl
    rw [hreport]
    cases hfinding : payload.isFinding with
    | true =>
      refine Or.inr ⟨by simp [Misused, hnode, hfinding], _, .finding hfinding, ?_⟩
      rw [severityOf_finding hfinding]
      rfl
    | false =>
      by_cases hasked : payload.field "severity" = .none
      · refine Or.inr ⟨by simp [Misused, hnode, hasked], _, .unasked hfinding hasked, ?_⟩
        rw [severityOf_unasked hfinding hasked]
        rfl
      · rw [severityOf_asked hfinding hasked]
        cases hvalue : Severity.ofValue (payload.field "severity") with
        | error e => exact Or.inl ⟨Or.inr ⟨hfinding, hasked, e, hvalue⟩, _, rfl⟩
        | ok severity =>
          exact Or.inr ⟨by simp [Misused, hnode, hvalue], _, .asked hfinding hasked hvalue, rfl⟩

end Context

/-! ## Sessions -/

namespace Session

namespace Step

/-- Whether a step writes into the configuration value. -/
def isWrite : Step → Bool
  | setSeverity _ => true
  | _ => false

end Step

/-- What a step adds to the sink, as its outcome tells. -/
def added : Except Failure Answer → List Report
  | .ok (.reports made) => made
  | _ => []

/-- **A session after some steps.** -/
def after (s : Session) : List Step → Session
  | [] => s
  | a :: steps => (s.step a).1.after steps

/-- **The transcript of a session**: its steps, each with its outcome. -/
def transcript (s : Session) : List Step → List (Step × Except Failure Answer)
  | [] => []
  | a :: steps => (a, (s.step a).2) :: (s.step a).1.transcript steps

/-- **What a report comes to** in a context of a rule with a bound severity: the outcome of the step
and the sink after it. -/
inductive Reported (rule : String) (bound : Severity) (node payload : Value)
    (sink : List Report) : Except Failure Answer → List Report → Prop
  /-- One report is appended; all that was handed in stands in it. -/
  | appended {severity : Severity} : ¬ Context.Misused node payload →
      Context.ReportedAt bound payload severity →
        Reported rule bound node payload sink
          (.ok (.reports [⟨rule, node, severity, payload⟩]))
          (sink ++ [⟨rule, node, severity, payload⟩])
  /-- The report is refused, and the sink stays as it was. -/
  | refused {misuse : Misuse} : Context.Misused node payload →
      Reported rule bound node payload sink (.error (.misuse misuse)) sink

variable {s t : Session} {a : Step} {steps : List Step}

/-! ### Single steps -/

/-- A step appends to the sink what its outcome tells, and does nothing else to it. -/
theorem sink_step (s : Session) (a : Step) : (s.step a).1.sink = s.sink ++ added (s.step a).2 := by
  cases a with
  | read property => exact (List.append_nil _).symm
  | setSeverity value =>
    rw [step]
    split <;> exact (List.append_nil _).symm
  | report node payload =>
    rw [step]
    split
    · rfl
    · exact (List.append_nil _).symm

theorem reported_step (s : Session) (node payload : Value) :
    Reported s.context.rule s.context.severity node payload s.sink
      (s.step (.report node payload)).2 (s.step (.report node payload)).1.sink := by
  rw [step]
  rcases s.context.report_cases node payload with ⟨hmisused, misuse, h⟩ | ⟨hnot, severity, hat, h⟩
  · rw [h]
    exact .refused hmisused
  · rw [h]
    exact .appended hnot hat

/-- Only a write looks at the configuration value, so the outcome of any other step is settled by
the context. -/
theorem answer_eq_of_context (hcontext : s.context = t.context) (ha : a.isWrite = false) :
    (s.step a).2 = (t.step a).2 := by
  cases a with
  | read property => cases property <;> simp [step, Session.property, hcontext]
  | setSeverity value => cases ha
  | report node payload =>
    rw [step, step, hcontext]
    split <;> rfl

/-! ### Whole sessions -/

theorem context_after (s : Session) (steps : List Step) : (s.after steps).context = s.context := by
  induction steps generalizing s with
  | nil => rfl
  | cons a steps ih => rw [after, ih, context_step]

theorem after_append (s : Session) (steps more : List Step) :
    s.after (steps ++ more) = (s.after steps).after more := by
  induction steps generalizing s with
  | nil => rfl
  | cons a steps ih => exact ih _

theorem transcript_append (s : Session) (steps more : List Step) :
    s.transcript (steps ++ more) = s.transcript steps ++ (s.after steps).transcript more := by
  induction steps generalizing s with
  | nil => rfl
  | cons a steps ih => exact congrArg (_ :: ·) (ih _)

/-- **The sink of a session** is what was in it and then what each step added, in order. -/
theorem sink_after (s : Session) (steps : List Step) :
    (s.after steps).sink = s.sink ++ (s.transcript steps).flatMap fun entry => added entry.2 := by
  induction steps generalizing s with
  | nil => exact (List.append_nil _).symm
  | cons a steps ih =>
    rw [after, ih, sink_step, transcript, List.flatMap_cons, List.append_assoc]

/-- **Writes leave no trace** but themselves: sessions on one context, the one with writes and the
other without them, tell the same of all other steps. -/
theorem transcript_filter (hcontext : s.context = t.context) (steps : List Step) :
    t.transcript (steps.filter (!·.isWrite)) =
      (s.transcript steps).filter (!·.1.isWrite) := by
  induction steps generalizing s t with
  | nil => rfl
  | cons a steps ih =>
    cases ha : a.isWrite with
    | true =>
      rw [transcript, List.filter_cons_of_neg (by simp [ha]),
        List.filter_cons_of_neg (by simp [ha])]
      exact ih ((context_step s a).trans hcontext)
    | false =>
      have htail := ih (s := (s.step a).1) (t := (t.step a).1)
        (by rw [context_step, context_step, hcontext])
      rw [transcript, List.filter_cons_of_pos (by simp [ha]), transcript,
        List.filter_cons_of_pos (by simp [ha]), answer_eq_of_context hcontext ha, htail]

/-- A context is opened for its rule, at the severity that the configuration has then. -/
theorem context_ofConfig {rule : String} {document : Document} {config ruleConfig : Value}
    (h : ofConfig rule document config ruleConfig = .ok s) :
    s.context.rule = rule ∧ Severity.ofConfig ruleConfig = .ok s.context.severity := by
  unfold ofConfig Context.ofConfig at h
  cases hseverity : Severity.ofConfig ruleConfig with
  | error e => simp [hseverity] at h
  | ok severity =>
    simp only [hseverity, Except.ok.injEq] at h
    exact h ▸ ⟨rfl, rfl⟩

/-- **Every session is lawful.**  However a context was opened and whatever steps were taken since,
its severity is the one that the configuration had at first; more steps only append to the sink; a
report that comes next is appended or refused as it would have been at first; and leaving out the
writes changes no outcome of any other step. -/
theorem after_lawful {rule : String} {document : Document} {config ruleConfig : Value}
    (h : ofConfig rule document config ruleConfig = .ok s) :
    ∃ bound, Severity.ofConfig ruleConfig = .ok bound ∧ ∀ steps,
      (s.after steps).context.severity = bound ∧
      (∀ more, (s.after steps).sink <+: (s.after (steps ++ more)).sink) ∧
      (∀ node payload, ∃ outcome,
        s.transcript (steps ++ [.report node payload]) =
          s.transcript steps ++ [(.report node payload, outcome)] ∧
        Reported rule bound node payload (s.after steps).sink outcome
          (s.after (steps ++ [.report node payload])).sink) ∧
      s.transcript (steps.filter (!·.isWrite)) = (s.transcript steps).filter (!·.1.isWrite) := by
  obtain ⟨hrule, hbound⟩ := context_ofConfig h
  refine ⟨_, hbound, fun steps => ⟨?_, fun more => ?_, fun node payload => ?_, ?_⟩⟩
  · rw [context_after]
  · rw [after_append, sink_after (s.after steps) more]
    exact List.prefix_append _ _
  · refine ⟨_, transcript_append s steps [.report node payload], ?_⟩
    rw [after_append, ← hrule, ← context_after s steps]
    exact reported_step (s.after steps) node payload
  · exact transcript_filter rfl steps

/-- A rule is switched off behind the back of its context and goes on to warn; an unknown severity
is refused. -/
theorem after_lawful_switchedOff :
    let finding : Value := .finding ⟨.text "found", .none, .none, .none, .none⟩
    let unknown : Value := .table [("severity", .text "info")]
    let steps : List Step :=
      [.setSeverity (.text "off"), .report .none finding, .report .none unknown]
    ∃ s, ofConfig "r" ⟨[], none⟩ .none (.table [("severity", .text "warn")]) = .ok s ∧
      (s.after steps).context.severity = .warning ∧
      (s.after steps).sink = [⟨"r", .none, .warning, finding⟩] ∧
      s.transcript (steps.filter (!·.isWrite)) = (s.transcript steps).filter (!·.1.isWrite) := by
  intro finding unknown steps
  have hopen : ofConfig "r" ⟨[], none⟩ .none (.table [("severity", .text "warn")]) =
      .ok ⟨⟨"r", ⟨[], none⟩, .none, .warning⟩, .table [("severity", .text "warn")], []⟩ := by cbv
  obtain ⟨bound, hbound, hlawful⟩ := after_lawful hopen
  obtain ⟨hseverity, -, -, hfilter⟩ := hlawful steps
  refine ⟨_, hopen, rfl, ?_, hfilter⟩
  cbv

end Session

end ProseLinter
