import ProseLinter.Proofs.Extension.Agree
import ProseLinter.Proofs.FileTree.Links

/-!
# Proofs/Extension/Cause — why a load fails

A load that fails tells its cause with the name of the extension, unless the cause ends the program
or has no text (`Workspace.failureOf_of_text`, `Workspace.failureOf_of_noText`).  Both come from an
exception that a program raises, and from nothing else (`Workspace.cause_of_attempt`).
-/

namespace ProseLinter

/-- The text of a wrong type with one message is the message. -/
theorem Raised.text_typeError (cs : List Char) :
    Raised.text ⟨"TypeError", [.ofChars cs]⟩ = .ok cs := by
  have hplain : Raised.text ⟨"TypeError", [.ofChars cs]⟩ = (Value.ofChars cs).plain := rfl
  rw [hplain, Value.ofChars, Value.plain_text, String.toList_ofList]

namespace Export

/-- Without a callable there is the refusal. -/
theorem eq_refusal_of_normalize {e : Export} {member : String} {cause : LoadCause}
    (h : e.normalize member = .error cause) : cause = e.refusal member := by
  unfold normalize at h
  repeat' split at h
  all_goals cases h
  rfl

/-- The refusal tells the name of the export, or that it is no text. -/
theorem refusal_cases (e : Export) (member : String) :
    (∃ label, e.refusal member = .notCallable label member) ∨
      ∃ cs, e.refusal member = .raised ⟨"TypeError", [.ofChars cs]⟩ := by
  rw [refusal]
  split
  · exact Or.inl ⟨_, rfl⟩
  · split
    · exact Or.inl ⟨_, rfl⟩
    · exact Or.inr ⟨_, rfl⟩

end Export

namespace Workspace

variable {w : Workspace} {e : Raised} {path : Path} {name member : String} {cause : LoadCause}

/-! ## From a cause to a failure -/

/-- **An ordinary cause**: it does not end the program. -/
def IsOrdinary (cause : LoadCause) : Prop := ∀ e, cause = .raised e → e.kind ∉ escapingKinds

/-- **The failure of an ordinary cause** tells it with the name of the extension… -/
theorem failureOf_of_text {cs : List Char} (hordinary : IsOrdinary cause)
    (htext : cause.text = .ok cs) :
    failureOf name cause = .load (.ofCause name cause) := by
  have hfailure : (LoadFailure.ofCause name cause).failure = .load (.ofCause name cause) := by
    simp [LoadFailure.failure, LoadFailure.text, LoadFailure.ofCause, htext, bind, Except.bind,
      pure, Except.pure]
  cases cause with
  | raised e => rw [failureOf, if_neg (by simpa using hordinary e rfl), hfailure]
  | _ => exact hfailure

/-- …unless the cause has no text: then writing the text fails instead. -/
theorem failureOf_of_noText {fault : ValueFault} (hordinary : IsOrdinary cause)
    (htext : cause.text = .error fault) :
    failureOf name cause = .value fault := by
  have hfailure : (LoadFailure.ofCause name cause).failure = .value fault := by
    simp [LoadFailure.failure, LoadFailure.text, LoadFailure.ofCause, htext, bind, Except.bind]
  cases cause with
  | raised e => rw [failureOf, if_neg (by simpa using hordinary e rfl), hfailure]
  | _ => exact hfailure

/-! ## From a program to a cause -/

/-- An exception that a program of the workspace raises. -/
def Raises (w : Workspace) (e : Raised) : Prop :=
  ∃ path moduleName p, w.programAt path moduleName = .ok p ∧ p.raises = some e

theorem Raises.congr {v : Workspace} (h : v.surroundings = w.surroundings) (hv : v.Raises e) :
    w.Raises e := by
  obtain ⟨path, moduleName, p, hp, hraises⟩ := hv
  exact ⟨path, moduleName, p, (programAt_congr h path moduleName) ▸ hp, hraises⟩

/-- The exception that the program in a file raises. -/
def raisedIn : Entry FileContent → Option Raised
  | .file (.source p) => p.raises
  | .file (.compiled p) => p.raises
  | .file (.bytes data) => (Source.program? data).bind (·.raises)
  | _ => none

/-- What a program of the workspace raises, the program in one of its files does. -/
theorem Raises.mem (h : w.Raises e) : some e ∈ w.tree.entries.map (raisedIn ·.2) := by
  obtain ⟨path, moduleName, p, hp, hraises⟩ := h
  have hcontent : ∀ content, programOf path moduleName content = .ok p →
      raisedIn (.file content) = some e := by
    intro content hprogram
    unfold programOf at hprogram
    repeat' split at hprogram
    all_goals cases hprogram
    · exact hraises
    · exact hraises
    · next hsource => rw [raisedIn, hsource, Option.bind_some, hraises]
  rw [programAt] at hp
  split at hp
  · cases hp
  · split at hp
    · next content hread =>
      obtain ⟨loc, hmem⟩ := Entry.mem_entries_of_read hread
      exact List.mem_map.mpr ⟨_, hmem, hcontent content hp⟩
    · cases hp

/-- A program that does not compile raises nothing. -/
theorem programAt_ne_raised (w : Workspace) (path : Path) (moduleName : String) (e : Raised) :
    w.programAt path moduleName ≠ .error (.raised e) := by
  have hprogramOf : ∀ content, programOf path moduleName content ≠ .error (.raised e) := by
    intro content
    unfold programOf
    repeat' split
    all_goals exact nofun
  rw [programAt]
  split
  · simp
  · split
    · exact hprogramOf _
    · simp

theorem raises_of_bodyAt {moduleName : String}
    (h : (w.bodyAt path moduleName).2 = .error (.raised e)) : w.Raises e := by
  rw [bodyAt] at h
  cases hprogram : w.programAt path moduleName with
  | error cause =>
    rw [hprogram] at h
    obtain rfl := Except.error.inj h
    exact absurd hprogram (programAt_ne_raised w path moduleName e)
  | ok p =>
    simp only [hprogram] at h
    cases hraises : p.raises with
    | none => simp [hraises] at h
    | some e' =>
      simp only [hraises, Except.error.injEq, LoadCause.raised.injEq] at h
      exact ⟨path, moduleName, p, hprogram, h ▸ hraises⟩

theorem raises_of_made {found : Option Found}
    (h : (w.made name found).2 = .error (.raised e)) : w.Raises e := by
  rcases found with _ | ⟨_ | origin, locations⟩
  · cases h
  · cases h
  · simp only [made] at h
    cases hbody : (w.bodyAt origin name).2 with
    | error cause =>
      rw [hbody] at h
      obtain rfl : cause = .raised e := Except.error.inj h
      exact raises_of_bodyAt hbody
    | ok exports =>
      rw [hbody] at h
      cases h

theorem raises_of_importUp : ∀ {up : List String}, AreParts up →
    (w.importUp up).2 = .error (.raised e) → w.Raises e
  | [], _, h => nomatch h
  | part :: above, hparts, h => by
      cases hknown : w.isImported (nameUp (part :: above)) with
      | true =>
        rw [importUp_of_isImported hknown] at h
        cases h
      | false =>
        cases hok : (w.importUp above).2 with
        | error cause =>
          rw [importUp_cons_of_error hknown hok] at h
          exact raises_of_importUp (areParts_cons.mp hparts).2 h
        | ok _ =>
          rw [importUp_cons_of_ok hparts hknown hok] at h
          rcases hmade : (w.importUp above).1.madeBelow part above with ⟨xs, cause | m⟩ <;>
            rw [hmade] at h
          · obtain rfl : cause = .raised e := Except.error.inj h
            exact (raises_of_made (congrArg Prod.snd hmade)).congr (surroundings_importUp w above)
          · cases h

/-- **What the module of an extension raises**, a program raises. -/
theorem raises_of_exportsOf {r : Resolved} (h : (w.exportsOf r).2 = .error (.raised e)) :
    w.Raises e := by
  rw [exportsOf] at h
  cases hmodule : r.moduleName with
  | none =>
    simp only [hmodule] at h
    rcases w.loadFile_cases r.path with ⟨cause, hcause, hload⟩ | ⟨p, hload⟩
    · exact absurd (Except.error.inj (hload.symm.trans h)) (hcause e)
    · exact raises_of_bodyAt (map_eq_error_iff.mp (hload.symm.trans h))
  | some m =>
    simp only [hmodule] at h
    unfold importModule at h
    split at h
    · cases h
    · cases h
    · split at h
      · next hrun =>
        obtain rfl := Except.error.inj h
        exact raises_of_importUp (areParts_up m) (congrArg Prod.snd hrun)
      · split at h <;> cases h

/-- That nothing can be called is an ordinary cause with a text. -/
theorem cause_of_normalize {e : Export} (h : e.normalize member = .error cause) :
    IsOrdinary cause ∧ ∃ cs, cause.text = .ok cs := by
  rcases Export.refusal_cases e member with ⟨label, hcause⟩ | ⟨cs, hcause⟩ <;>
    rw [Export.eq_refusal_of_normalize h, hcause]
  · exact ⟨(fun _ h => by cases h), _, rfl⟩
  · refine ⟨fun e he => ?_, cs, Raised.text_typeError cs⟩
    rw [← LoadCause.raised.inj he]
    simp [escapingKinds]

/-- **Why a load fails**: with an exception that a program raises, or with an ordinary cause that
has a text. -/
theorem cause_of_attempt {r : Resolution} (h : w.attempt member r = .error cause) :
    (∃ e, cause = .raised e ∧ w.Raises e) ∨ IsOrdinary cause ∧ ∃ cs, cause.text = .ok cs := by
  cases r with
  | notFound name =>
    obtain rfl := Except.error.inj h
    exact Or.inr ⟨(fun _ h => by cases h), _, rfl⟩
  | found r =>
    rw [attempt] at h
    rcases bind_eq_error_iff.mp h with hmodule | ⟨e, -, h⟩
    · cases cause with
      | raised e => exact Or.inl ⟨e, rfl, raises_of_exportsOf hmodule⟩
      | _ => exact Or.inr ⟨(fun _ h => by cases h), _, rfl⟩
    · rcases bind_eq_error_iff.mp h with hnormal | ⟨c, -, h⟩
      · exact Or.inr (cause_of_normalize hnormal)
      · cases h

end Workspace

end ProseLinter
