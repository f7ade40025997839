import ProseLinter.Fix
import ProseLinter.Proofs.Json.Data

/-!
# Proofs/Fix/Methods — what the methods of the fixer make of any range

A range may be anything that answers when it is asked for its items.  It **converts** to two
integers if it has two items that stand for them (`Target.Converts`), and what an action makes of it
is settled by these integers (`Action.on_of_range`).  Two integers convert to themselves
(`Target.converts_ofEnds`), so a method on a node, which converts the range of the node twice, does
what the method on ranges does (`Method.call_onNode`).  `Action.lawful` puts this together.

A range that is refused is told in a message, and there is no message where it would have to show an
integer of too many digits: `Method.call_reversed_tooLong`.
-/

namespace ProseLinter.Fix

variable {t : Target} {start stop : ℤ} {text : Value} {action : Action} {e : Failure}

@[simp] theorem lift_eq_ok_iff {α : Type} {x : Except ValueFault α} {a : α} :
    lift x = .ok a ↔ x = .ok a := by
  cases x <;> simp [lift]

/-! ## Ranges that convert -/

namespace Target

/-- **A range converts to two integers**: it has two items, and they stand for the integers. -/
structure Converts (t : Target) (start stop : ℤ) : Prop where
  count_eq : t.count = .ok 2
  start_eq : ∃ v, t.item 0 = .ok v ∧ v.toInt = .ok start
  stop_eq : ∃ v, t.item 1 = .ok v ∧ v.toInt = .ok stop

/-- Two integers convert to themselves. -/
theorem converts_ofEnds (start stop : ℤ) : (ofEnds start stop).Converts start stop :=
  ⟨rfl, ⟨.int start, rfl, rfl⟩, ⟨.int stop, rfl, rfl⟩⟩

end Target

/-- A range that converts is given if it does not start after its end. -/
theorem range_of_converts (h : t.Converts start stop) :
    range t = if stop < start then .error (EditFault.reversed (.int start) (.int stop)).failure
      else .ok (start, stop) := by
  obtain ⟨hcount, ⟨v, hv, hstart⟩, ⟨v', hv', hstop⟩⟩ := h
  simp only [range, hcount, hv, hv', hstart, hstop, lift, bind, Except.bind]
  rfl

/-- A range with another number of items is refused. -/
theorem range_of_length {items : List Value} (hitems : t.items = .ok items)
    (hlength : items.length ≠ 2) : range t = .error (EditFault.wrongCount items).failure := by
  simp only [range, Target.count, hitems, Except.map, lift, bind, Except.bind, if_pos hlength]
  rfl

/-- A range that is given converts. -/
theorem converts_of_range (h : range t = .ok (start, stop)) : t.Converts start stop := by
  obtain ⟨n, hn, h⟩ := bind_eq_ok_iff.mp h
  dsimp only at h
  split at h
  · obtain ⟨_, _, h⟩ := bind_eq_ok_iff.mp h
    cases h
  next htwo =>
  obtain ⟨v, hv, h⟩ := bind_eq_ok_iff.mp h
  obtain ⟨a, ha, h⟩ := bind_eq_ok_iff.mp h
  obtain ⟨v', hv', h⟩ := bind_eq_ok_iff.mp h
  obtain ⟨b, hb, h⟩ := bind_eq_ok_iff.mp h
  split at h
  · cases h
  · cases h
    simp only [lift_eq_ok_iff] at hn hv ha hv' hb
    exact ⟨not_ne_iff.mp htwo ▸ hn, ⟨v, hv, ha⟩, ⟨v', hv', hb⟩⟩

/-- **A range is given exactly if it converts**, and does not start after its end. -/
theorem range_eq_ok_iff : range t = .ok (start, stop) ↔ t.Converts start stop ∧ start ≤ stop := by
  refine ⟨fun h => ?_, fun ⟨h, hle⟩ => ?_⟩
  · have hconverts := converts_of_range h
    rw [range_of_converts hconverts] at h
    split at h
    · cases h
    · exact ⟨hconverts, by omega⟩
  · rw [range_of_converts h, if_neg (not_lt.mpr hle)]

/-- Two integers in their order are the range that they are. -/
theorem range_ofEnds (h : start ≤ stop) : range (.ofEnds start stop) = .ok (start, stop) :=
  range_eq_ok_iff.mpr ⟨Target.converts_ofEnds start stop, h⟩

/-! ## Actions on a range -/

/-- A fix of two integers in their order. -/
theorem make_int (h : start ≤ stop) (text : Value) :
    make (.int start) (.int stop) text = .ok ⟨.int start, .int stop, text⟩ := by
  rw [make, Value.greater_int, decide_eq_false (not_lt.mpr h)]

namespace Action

/-- Whether an action inserts something. -/
def inserts : Action → Bool
  | insertAfter => true
  | insertBefore => true
  | replace => false
  | remove => false

/-- **The edit of an action** between two offsets. -/
def edit (action : Action) (start stop : ℤ) (text : Value) : Fix :=
  match action with
  | insertAfter => ⟨.int stop, .int stop, text⟩
  | insertBefore => ⟨.int start, .int start, text⟩
  | replace => ⟨.int start, .int stop, text⟩
  | remove => ⟨.int start, .int stop, .text ""⟩

/-- **What an action makes of a range** that is given: its edit, if there is something to insert
where it inserts. -/
theorem on_of_range (h : range t = .ok (start, stop)) (action : Action) (text : Value) :
    action.on t text = if action.inserts && !text.truth then .error (.edit .emptyInsertion)
      else .ok (action.edit start stop text) := by
  have hle := (range_eq_ok_iff.mp h).2
  rw [Action.on, h]
  cases action with
  | insertAfter =>
    cases htext : text.truth <;> simp [insertAt, htext, make_int, inserts, edit, bind, Except.bind]
  | insertBefore =>
    cases htext : text.truth <;> simp [insertAt, htext, make_int, inserts, edit, bind, Except.bind]
  | replace => exact make_int hle text
  | remove => exact make_int hle (.text "")

/-- A range that is refused is refused to every action. -/
theorem on_of_range_error (h : range t = .error e) (action : Action) (text : Value) :
    action.on t text = .error e := by
  rw [Action.on, h]
  rfl

/-- **What is done to a node is done to its range.** -/
theorem onNode_eq (action : Action) (node : Except Failure Target) (text : Value) :
    action.onNode node text = node >>= fun t => action.on t text := by
  cases node with
  | error e => rfl
  | ok t =>
    cases hrange : range t with
    | error e =>
      rw [Action.onNode]
      change (range t >>= _) = action.on t text
      rw [hrange, on_of_range_error hrange]
      rfl
    | ok ends =>
      -- the second time it is two integers that are converted, and they stay as they are
      obtain ⟨start, stop⟩ := ends
      have hle := (range_eq_ok_iff.mp hrange).2
      rw [Action.onNode]
      change (range t >>= _) = action.on t text
      rw [hrange, on_of_range hrange, ← on_of_range (range_ofEnds hle)]
      rfl

end Action

/-- **A method on a node does what the method on ranges does** with the range of the node. -/
theorem Method.call_onNode (action : Action) (node text : Value) :
    Method.call ⟨action, true⟩ node text =
      rangeOfNode node >>= fun v => Method.call ⟨action, false⟩ v text := by
  rw [Method.call, if_pos rfl, Action.onNode_eq]
  cases rangeOfNode node with
  | error e => rfl
  | ok v => rfl

/-! ## The law -/

namespace Action

/-- **What an action does**, with any range and any text. -/
structure Lawful (action : Action) : Prop where
  /-- A fix is the edit of the integers that the range converts to; to insert, there has to be
  something. -/
  eq_ok_iff : ∀ {t text fix}, action.on t text = .ok fix ↔
    ∃ start stop, t.Converts start stop ∧ start ≤ stop ∧
      (action.inserts = true → text.truth = true) ∧ fix = action.edit start stop text
  /-- A fix is of two integers, the first not after the second. -/
  ordered : ∀ {t text fix}, action.on t text = .ok fix →
    ∃ start stop : ℤ, fix.start = .int start ∧ fix.stop = .int stop ∧ start ≤ stop
  /-- A range of another number of items than two is refused. -/
  wrongCount : ∀ {t items}, t.items = .ok items → items.length ≠ 2 → ∀ text,
    action.on t text = .error (EditFault.wrongCount items).failure
  /-- A range that starts after its end is refused. -/
  reversed : ∀ {t} {start stop : ℤ}, t.Converts start stop → stop < start → ∀ text,
    action.on t text = .error (EditFault.reversed (.int start) (.int stop)).failure
  /-- The method on ranges is given any value. -/
  call_eq_on : ∀ v text, Method.call ⟨action, false⟩ v text = action.on (.ofValue v) text
  /-- What is done to a node is done to its range… -/
  onNode_eq : ∀ node text, action.onNode node text = node >>= fun t => action.on t text
  /-- …and so it is with the two methods of the action. -/
  call_eq : ∀ node text, Method.call ⟨action, true⟩ node text =
    rangeOfNode node >>= fun v => Method.call ⟨action, false⟩ v text

/-- A fix that an action makes is the edit of the range. -/
theorem on_eq_ok_iff {fix : Fix} :
    action.on t text = .ok fix ↔ ∃ start stop, t.Converts start stop ∧ start ≤ stop ∧
      (action.inserts = true → text.truth = true) ∧ fix = action.edit start stop text := by
  constructor
  · intro h
    cases hrange : range t with
    | error e =>
      rw [on_of_range_error hrange] at h
      cases h
    | ok ends =>
      obtain ⟨start, stop⟩ := ends
      obtain ⟨hconverts, hle⟩ := range_eq_ok_iff.mp hrange
      rw [on_of_range hrange] at h
      split at h
      · cases h
      · next hgiven =>
        exact ⟨start, stop, hconverts, hle, by simpa using hgiven, (Except.ok.inj h).symm⟩
  · rintro ⟨start, stop, hconverts, hle, hgiven, rfl⟩
    rw [on_of_range (range_eq_ok_iff.mpr ⟨hconverts, hle⟩), if_neg (by simpa using hgiven)]

/-- The two ends of an edit between two offsets are integers in their order. -/
theorem exists_edit_ends (h : start ≤ stop) (action : Action) (text : Value) :
    ∃ start' stop' : ℤ, (action.edit start stop text).start = .int start' ∧
      (action.edit start stop text).stop = .int stop' ∧ start' ≤ stop' := by
  cases action with
  | insertAfter => exact ⟨stop, stop, rfl, rfl, le_rfl⟩
  | insertBefore => exact ⟨start, start, rfl, rfl, le_rfl⟩
  | replace => exact ⟨start, stop, rfl, rfl, h⟩
  | remove => exact ⟨start, stop, rfl, rfl, h⟩

/-- **Every action keeps the law.** -/
theorem lawful (action : Action) : action.Lawful where
  eq_ok_iff := on_eq_ok_iff
  ordered h := by
    obtain ⟨start, stop, -, hle, -, rfl⟩ := on_eq_ok_iff.mp h
    exact exists_edit_ends hle action _
  wrongCount hitems hlength text := on_of_range_error (range_of_length hitems hlength) action text
  reversed hconverts hlt text := by
    refine on_of_range_error ?_ action text
    rw [range_of_converts hconverts, if_pos hlt]
  call_eq_on _ _ := rfl
  onNode_eq := action.onNode_eq
  call_eq := Method.call_onNode action

end Action

/-- **A range that starts after its end, and is not told so**: the message would show an integer of
too many digits. -/
theorem Method.call_reversed_tooLong :
    let v := Value.tuple [.int Integer.tooLong, .int 0]
    (Target.ofValue v).Converts Integer.tooLong 0 ∧ 0 < Integer.tooLong ∧
      ∀ fault, Method.call ⟨.remove, false⟩ v .none ≠ .error (.edit fault) := by
  intro v
  have hconverts : (Target.ofValue v).Converts Integer.tooLong 0 :=
    Target.converts_ofEnds Integer.tooLong 0
  have hlt : 0 < Integer.tooLong := Int.natCast_pos.mpr (Nat.pow_pos (by decide))
  have hunwritable :
      (EditFault.reversed (.int Integer.tooLong) (.int 0)).isWritable = false := by
    rw [EditFault.isWritable, Value.isWritable, Integer.isWritable_tooLong, Bool.false_and]
  have hcall : Method.call ⟨.remove, false⟩ v .none = .error (.value .tooManyDigits) := by
    rw [Method.call, if_neg Bool.false_ne_true]
    refine Action.on_of_range_error ?_ .remove .none
    rw [range_of_converts hconverts, if_pos hlt, EditFault.failure, hunwritable]
    rfl
  refine ⟨hconverts, hlt, fun fault h => ?_⟩
  rw [hcall] at h
  cases h

end ProseLinter.Fix
