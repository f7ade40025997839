import ProseLinter.Proofs.Document.Decomposition
import ProseLinter.Result

/-!
# Proofs/Fix/AtOnce — the fixes of messages made at once

The ranges of fixes are ranges of the text that was linted.  `Replacement.applyAll` makes many edits
at once: what no range covers stays, and no range moves because of an edit before it.  Edits that
start at an offset or after it leave alone what stands before the offset (`applyFrom_eq_append`).
-/

namespace ProseLinter

namespace Document

/-- A piece of a text is the slice between what stands before it and what stands after it. -/
theorem slice_eq_piece (before after : List Char) {text piece : List Char} {a b : ℤ}
    (htext : text = before ++ piece ++ after) (ha : a = before.length)
    (hb : b = before.length + piece.length) : slice text a b = piece := by
  rw [slice, ha, hb, htext, ← Int.natCast_add, Int.toNat_natCast, Int.toNat_natCast,
    ← List.length_append, List.take_left, List.drop_left]

/-- A slice does not look past its end. -/
theorem slice_append_left {text : List Char} {b : ℤ} (hb : b ≤ text.length) (after : List Char)
    (a : ℤ) : slice (text ++ after) a b = slice text a b := by
  rw [slice, slice, List.take_append_of_le_length (Int.toNat_le.mpr hb)]

/-- The slice up to the end of a longer text. -/
theorem slice_append_length {text : List Char} {a : ℤ} (ha : a ≤ text.length)
    (after : List Char) :
    slice (text ++ after) a (text ++ after).length = slice text a text.length ++ after := by
  rw [slice, slice, Int.toNat_natCast, Int.toNat_natCast, List.take_length, List.take_length,
    List.drop_append_of_le_length (Int.toNat_le.mpr ha)]

end Document

open Document

/-- An edit of characters: what stands in a range of a text gives way to another text. -/
structure Replacement where
  start : ℤ
  stop : ℤ
  text : List Char
  deriving DecidableEq, Repr

namespace Replacement

/-- What edits make of a text from an offset on. -/
def applyFrom (text : List Char) (offset : ℤ) : List Replacement → List Char
  | [] => slice text offset text.length
  | e :: es => slice text offset e.start ++ e.text ++ applyFrom text e.stop es

/-- **Edits made at once.**  Their ranges are ranges of the given text, in order and apart. -/
def applyAll (text : List Char) (es : List Replacement) : List Char := applyFrom text 0 es

variable {text : List Char} {es : List Replacement} {a b : ℤ}

/-- Before the first range the text stays. -/
theorem applyFrom_eq_append (hab : a ≤ b) (hb : b ≤ text.length) (hes : ∀ e ∈ es, b ≤ e.start) :
    applyFrom text a es = slice text a b ++ applyFrom text b es := by
  cases es with
  | nil => rw [applyFrom, applyFrom, slice_append text hab hb]
  | cons e es =>
    have hbe := hes e List.mem_cons_self
    rw [applyFrom, applyFrom, ← List.append_assoc, ← List.append_assoc, slice_append text hab hbe]

/-- What is put after a text stays after it. -/
theorem applyFrom_append (after : List Char) {a : ℤ} (ha : a ≤ text.length) :
    ∀ {es : List Replacement}, (∀ e ∈ es, e.start ≤ text.length ∧ e.stop ≤ text.length) →
      applyFrom (text ++ after) a es = applyFrom text a es ++ after
  | [], _ => slice_append_length ha after
  | e :: es, h => by
      obtain ⟨⟨hstart, hstop⟩, hes⟩ := List.forall_mem_cons.mp h
      rw [applyFrom, applyFrom, slice_append_left hstart, applyFrom_append after hstop hes,
        List.append_assoc _ _ after]

end Replacement

/-- The edit of characters that a fix is, if its ends are integers and its text is a text. -/
def Fix.replacement? : Fix → Option Replacement
  | ⟨.int start, .int stop, .text text⟩ => some ⟨start, stop, text.toList⟩
  | _ => none

/-- **A text with all fixes of some messages made.** -/
def Lint.mended (text : List Char) (messages : List LintMessage) : List Char :=
  Replacement.applyAll text (messages.filterMap fun m => m.fix.bind Fix.replacement?)

end ProseLinter
