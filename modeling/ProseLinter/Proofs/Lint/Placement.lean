import ProseLinter.Lint
import ProseLinter.Proofs.LineMap.Position
import ProseLinter.Proofs.Outcome

/-!
# Proofs/Lint/Placement — where a finding is placed

A finding is addressed relative to its node in one of two ways: by an offset, which counts from the
start of the node, or by a line and a column.  The latter count from the position of the node, but
the column does so on the node's own line only; on every other line it counts from the start of that
line.  `addresses_agree` says that this is the right way to count: whatever place of the text is
meant, both addresses of it lead to the same message.
-/

namespace ProseLinter

namespace Finding

/-- A finding at an offset from its node. -/
def atIndex (message : Value) (index : ℤ) : Finding Value :=
  ⟨message, .int index, .none, .none, .none⟩

/-- A finding at a line and a column relative to its node. -/
def atLine (message : Value) (line column : ℤ) : Finding Value :=
  ⟨message, .none, .int line, .int column, .none⟩

end Finding

namespace Position

/-- How many lines a position lies below another one. -/
def linesBelow (base p : Position) : ℤ := p.line - base.line

/-- **The column of a position relative to another one**: the distance on one line, and otherwise
the distance from the start of the line. -/
def columnFrom (base p : Position) : ℤ :=
  if p.line = base.line then p.column - base.column else p.column - 1

/-- A line and a column relative to a position lead from it to the position that they are taken
of. -/
theorem relative_eq (base p : Position) :
    (⟨base.line + base.linesBelow p, if base.linesBelow p = 0 then base.column + base.columnFrom p
      else base.columnFrom p + 1⟩ : Position) = p := by
  have hline : base.linesBelow p = 0 ↔ p.line = base.line := by
    rw [linesBelow]
    omega
  simp only [hline, columnFrom]
  by_cases hsame : p.line = base.line
  · rw [if_pos hsame, if_pos hsame, linesBelow, add_sub_cancel, add_sub_cancel]
  · rw [if_neg hsame, if_neg hsame, linesBelow, add_sub_cancel, sub_add_cancel]

end Position

namespace Lint

/-- The message of what a rule reports at a node. -/
def placed (context : Context) (node payload : Value) : Except Failure LintMessage := do
  messageFor (.ofText context.document.text) (← context.report node payload)

/-! ## The offset of a finding -/

theorem field_index (f : Finding Value) : (Value.finding f).field "index" = f.index := rfl

theorem field_line (f : Finding Value) : (Value.finding f).field "line" = f.line := rfl

theorem field_column (f : Finding Value) : (Value.finding f).field "column" = f.column := rfl

/-- A finding with an index is placed by it. -/
theorem offsetOf_of_index {f : Finding Value} {index : ℤ} (hindex : f.index = .int index)
    (lines : LineMap) (start : ℤ) : offsetOf lines start (.finding f) = .ok (start + index) := by
  rw [offsetOf, field_index, hindex]
  rfl

/-- A finding with a line and a column is placed relative to the position of its node. -/
theorem offsetOf_of_line {f : Finding Value} {line column : ℤ} (hindex : f.index = .none)
    (hline : f.line = .int line) (hcolumn : f.column = .int column) (lines : LineMap) (start : ℤ) :
    offsetOf lines start (.finding f) = .ok (lines.offset ⟨(lines.position start).line + line,
      if line = 0 then (lines.position start).column + column else column + 1⟩) := by
  rw [offsetOf, field_index, field_line, field_column, hindex, hline, hcolumn]
  -- a column of zero counts as none given, which stands for zero too
  by_cases hzero : column = 0
  · subst hzero
    rfl
  · have htruth : (Value.int column).truth = true := by simpa [Value.truth] using hzero
    simp only [htruth]
    rfl

/-- **A finding becomes a message** at the place of its offset. -/
theorem placed_finding {context : Context} {n : TextNode} {f : Finding Value} {offset : ℤ}
    {fix : Option Fix} (hfix : fixOf (.finding f) = .ok fix)
    (hoffset : offsetOf (.ofText context.document.text) n.start (.finding f) = .ok offset) :
    placed context (.node n) (.finding f) = .ok ⟨context.rule, f.message, offset,
      (Document.position context.document.text offset).line,
      (Document.position context.document.text offset).column, context.severity, fix⟩ := by
  refine bind_eq_ok_iff.mpr ⟨_, rfl, ?_⟩
  refine bind_eq_ok_iff.mpr ⟨n.start, rfl, bind_eq_ok_iff.mpr ⟨f.message, rfl, ?_⟩⟩
  refine bind_eq_ok_iff.mpr ⟨offset, ?_, bind_eq_ok_iff.mpr ⟨fix, hfix, rfl⟩⟩
  rw [hoffset]
  rfl

/-! ## Both addresses of a place -/

/-- **The two addresses of a place agree.**  Let a finding be reported at a node, once by the
distance of a place of the text from the node, and once by the line and the column of that place
relative to those of the node, on lines above the node, on its own and below.  Both times the
message has the offset, the line and the column of the place. -/
theorem addresses_agree (context : Context) (n : TextNode) (message : Value) {i : ℤ}
    (hstart : 0 ≤ n.start + i) (hstop : n.start + i ≤ context.document.text.length) :
    let base := Document.position context.document.text n.start
    let p := Document.position context.document.text (n.start + i)
    let m : LintMessage :=
      ⟨context.rule, message, n.start + i, p.line, p.column, context.severity, none⟩
    placed context (.node n) (.finding (.atIndex message i)) = .ok m ∧
      placed context (.node n)
        (.finding (.atLine message (base.linesBelow p) (base.columnFrom p))) = .ok m := by
  intro base p m
  have hback : Document.offset context.document.text
      (Document.position context.document.text (n.start + i)) = n.start + i := by
    rw [Document.offset, Document.position, LineMap.offset_position (LineMap.ascending_ofText _),
      LineMap.clamp, LineMap.length_ofText]
    omega
  constructor
  · exact placed_finding rfl (offsetOf_of_index rfl _ _)
  · refine placed_finding rfl ?_
    rw [offsetOf_of_line rfl rfl rfl]
    exact congrArg Except.ok ((congrArg _ (Position.relative_eq base p)).trans hback)

/-- A place on the line above the node, whose line counts backwards. -/
theorem addresses_agree_above :
    let context : Context := ⟨"r", ⟨['a', 'b', '\n', 'c', 'd'], none⟩, .none, .error⟩
    let n : TextNode := ⟨Document.lineKind, 3, 5, ['c', 'd'], 2⟩
    let m : LintMessage := ⟨"r", .text "found", 1, 1, 2, .error, none⟩
    n ∈ Document.nodes context.document.text ∧
      placed context (.node n) (.finding (.atIndex (.text "found") (-2))) = .ok m ∧
      placed context (.node n) (.finding (.atLine (.text "found") (-1) 1)) = .ok m := by
  intro context n m
  exact ⟨by decide, addresses_agree context n (.text "found") (i := -2) (by decide) (by decide)⟩

end Lint

end ProseLinter
