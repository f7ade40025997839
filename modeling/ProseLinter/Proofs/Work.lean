import Mathlib
import ProseLinter.Extension.Family

/-!
# Proofs/Work — work in steps

Work on a workspace is put together with the bind of `Work`: what comes second is done in the
workspace that the first leaves, and is not done at all after a failure (`run_bind`).  Work that
gives a result is taken apart with `bind_gives_iff`; what holds of the workspace after any work,
failed or not, goes through `Keeps`.
-/

namespace ProseLinter.Work

variable {α β : Type} {w : Workspace} {x : Work α} {f : α → Work β}

@[simp] theorem run_pure (a : α) (w : Workspace) : run (pure a) w = (w, .ok a) := rfl

@[simp] theorem run_throw (e : Failure) (w : Workspace) :
    run (throw e : Work α) w = (w, .error e) := rfl

@[simp] theorem run_ofStep (step : Workspace → Workspace × Except Failure α) (w : Workspace) :
    run (ofStep step) w = step w := rfl

@[simp] theorem run_ofExcept (r : Except Failure α) (w : Workspace) :
    run (ofExcept r) w = (w, r) := rfl

theorem run_eq_swap (x : Work α) (w : Workspace) : run x w = ((x w).2, (x w).1) := rfl

/-- **One after the other.** -/
theorem run_bind (x : Work α) (f : α → Work β) (w : Workspace) :
    run (x >>= f) w =
      match run x w with
      | (w', .ok a) => run (f a) w'
      | (w', .error e) => (w', .error e) := by
  simp only [run_eq_swap, bind, ExceptT.bind, ExceptT.mk, StateT.bind, ExceptT.bindCont]
  rcases x w with ⟨e | a, w'⟩ <;> rfl

/-- **Work gives a result when both parts do.** -/
theorem bind_gives_iff {b : β} :
    (run (x >>= f) w).2 = .ok b ↔
      ∃ a, (run x w).2 = .ok a ∧ (run (f a) (run x w).1).2 = .ok b := by
  rw [run_bind]
  rcases run x w with ⟨w', e | a⟩ <;> simp

/-- Changing the workspace never fails. -/
@[simp] theorem run_update_bind (change : Workspace → Workspace) (f : Unit → Work β)
    (w : Workspace) : run (update change >>= f) w = run (f ()) (change w) := rfl

/-- Catching failures does nothing where there are none. -/
theorem run_tryCatch (x : Work α) (handle : Failure → Work α) (w : Workspace) :
    run (tryCatch x handle) w =
      match run x w with
      | (w', .ok a) => (w', .ok a)
      | (w', .error e) => run (handle e) w' := by
  simp only [run_eq_swap, tryCatch, tryCatchThe, MonadExceptOf.tryCatch, ExceptT.tryCatch,
    ExceptT.mk, bind, StateT.bind]
  rcases x w with ⟨e | a, w'⟩ <;> rfl

/-! ## What work keeps -/

/-- **Work keeps a view** of the workspace, whether or not it fails. -/
def Keeps {ν : Type} (view : Workspace → ν) (x : Work α) : Prop :=
  ∀ w, view (run x w).1 = view w

namespace Keeps

variable {ν : Type} {view : Workspace → ν}

theorem pure (a : α) : Keeps view (Pure.pure a : Work α) := fun _ => rfl

theorem ofExcept (r : Except Failure α) : Keeps view (Work.ofExcept r) := fun _ => rfl

theorem throw (e : Failure) : Keeps view (MonadExcept.throw e : Work α) := fun _ => rfl

theorem bind (hx : Keeps view x) (hf : ∀ a, Keeps view (f a)) : Keeps view (x >>= f) := fun w => by
  have h := hx w
  rw [run_bind]
  rcases hrun : run x w with ⟨w', e | a⟩ <;> rw [hrun] at h
  · exact h
  · exact (hf a w').trans h

theorem tryCatch {handle : Failure → Work α} (hx : Keeps view x)
    (hhandle : ∀ e, Keeps view (handle e)) :
    Keeps view (MonadExcept.tryCatch x handle) := fun w => by
  have h := hx w
  rw [run_tryCatch]
  rcases hrun : run x w with ⟨w', e | a⟩ <;> rw [hrun] at h
  · exact (hhandle e w').trans h
  · exact h

end Keeps

end ProseLinter.Work
