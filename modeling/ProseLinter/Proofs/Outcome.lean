import Mathlib

/-!
# Proofs/Outcome — what it takes for checked steps to succeed

Steps that may fail are put together with the bind of `Except`; `bind_eq_ok_iff` takes a successful
run of them apart.  A step that succeeds on each item of a list is told by `List.Forall₂`
(`mapM_eq_ok_iff`).
-/

namespace ProseLinter

/-- **Two steps succeed when both do.** -/
theorem bind_eq_ok_iff {ε α β : Type} {x : Except ε α} {f : α → Except ε β} {b : β} :
    x >>= f = .ok b ↔ ∃ a, x = .ok a ∧ f a = .ok b := by
  cases x with
  | error e => simp [bind, Except.bind]
  | ok a => simp [bind, Except.bind]

/-- What is made of a result is there when the result is. -/
theorem map_eq_ok_iff {ε α β : Type} {x : Except ε α} {f : α → β} {b : β} :
    x.map f = .ok b ↔ ∃ a, x = .ok a ∧ f a = b := by
  cases x with
  | error e => simp [Except.map]
  | ok a => simp [Except.map]

/-- …and what the result failed with is what there is instead. -/
theorem map_eq_error_iff {ε α β : Type} {x : Except ε α} {f : α → β} {e : ε} :
    x.map f = .error e ↔ x = .error e := by
  cases x with
  | error e' => simp [Except.map]
  | ok a => simp [Except.map]

/-- Two steps fail when one of them does. -/
theorem bind_eq_error_iff {ε α β : Type} {x : Except ε α} {f : α → Except ε β} {e : ε} :
    x >>= f = .error e ↔ x = .error e ∨ ∃ a, x = .ok a ∧ f a = .error e := by
  cases x with
  | error e => simp [bind, Except.bind]
  | ok a => simp [bind, Except.bind]

/-- **A step succeeds on each item** of a list if it succeeds on all of them. -/
theorem mapM_eq_ok_iff {ε α β : Type} {f : α → Except ε β} :
    ∀ {l : List α} {l' : List β},
      l.mapM f = .ok l' ↔ List.Forall₂ (fun a b => f a = .ok b) l l'
  | [], l' => by
      rw [List.mapM_nil, List.forall₂_nil_left_iff]
      exact ⟨fun h => (Except.ok.inj h).symm, fun h => h ▸ rfl⟩
  | a :: l, l' => by
      rw [List.mapM_cons, bind_eq_ok_iff, List.forall₂_cons_left_iff]
      constructor
      · rintro ⟨b, hb, h⟩
        obtain ⟨bs, hbs, h⟩ := bind_eq_ok_iff.mp h
        exact ⟨b, bs, hb, mapM_eq_ok_iff.mp hbs, (Except.ok.inj h).symm⟩
      · rintro ⟨b, bs, hb, hbs, rfl⟩
        exact ⟨b, hb, bind_eq_ok_iff.mpr ⟨bs, mapM_eq_ok_iff.mpr hbs, rfl⟩⟩

/-- What a step fails with on a list, it fails with on an item. -/
theorem exists_of_mapM_eq_error {ε α β : Type} {f : α → Except ε β} {e : ε} :
    ∀ {l : List α}, l.mapM f = .error e → ∃ a ∈ l, f a = .error e
  | [], h => nomatch h
  | a :: l, h => by
      rw [List.mapM_cons] at h
      rcases bind_eq_error_iff.mp h with ha | ⟨b, -, h⟩
      · exact ⟨a, List.mem_cons_self, ha⟩
      · rcases bind_eq_error_iff.mp h with hl | ⟨bs, -, h⟩
        · obtain ⟨c, hc, hce⟩ := exists_of_mapM_eq_error hl
          exact ⟨c, List.mem_cons_of_mem a hc, hce⟩
        · cases h

section

variable {α β γ : Type} {r : α → β → Prop} {l : List α} {l' : List β}

/-- A step that succeeds on each item of a list has a list of results. -/
theorem exists_forall₂ : ∀ {l : List α}, (∀ a ∈ l, ∃ b, r a b) → ∃ l', List.Forall₂ r l l'
  | [], _ => ⟨[], .nil⟩
  | a :: l, h => by
      obtain ⟨b, hb⟩ := h a List.mem_cons_self
      obtain ⟨l', hl'⟩ := exists_forall₂ fun x hx => h x (List.mem_cons_of_mem a hx)
      exact ⟨b :: l', .cons hb hl'⟩

/-- Each item has its result… -/
theorem forall₂_left (h : List.Forall₂ r l l') : ∀ a ∈ l, ∃ b ∈ l', r a b := by
  induction h with
  | nil => simp
  | cons hab _ ih =>
    refine List.forall_mem_cons.mpr ⟨⟨_, List.mem_cons_self, hab⟩, fun a ha => ?_⟩
    obtain ⟨b, hb, h⟩ := ih a ha
    exact ⟨b, List.mem_cons_of_mem _ hb, h⟩

/-- …and each result its item. -/
theorem forall₂_right (h : List.Forall₂ r l l') : ∀ b ∈ l', ∃ a ∈ l, r a b :=
  forall₂_left h.flip

/-- The results of some of the items are some of the results. -/
theorem exists_sublist_of_forall₂ (p : α → Bool) (h : List.Forall₂ r l l') :
    ∃ l'', List.Forall₂ r (l.filter p) l'' ∧ l''.Sublist l' := by
  induction h with
  | nil => exact ⟨[], .nil, .slnil⟩
  | @cons a b l l' hab _ ih =>
    obtain ⟨l'', hl'', hsub⟩ := ih
    by_cases ha : p a = true
    · exact ⟨b :: l'', by rw [List.filter_cons_of_pos ha]; exact .cons hab hl'', hsub.cons_cons b⟩
    · exact ⟨l'', by rwa [List.filter_cons_of_neg ha], hsub.cons b⟩

/-- The items and the results give equal lists if each item gives what its result gives. -/
theorem map_eq_of_forall₂ {f : α → γ} {g : β → γ} (h : List.Forall₂ r l l')
    (hfg : ∀ a ∈ l, ∀ b, r a b → f a = g b) : l.map f = l'.map g := by
  induction h with
  | nil => rfl
  | cons hab _ ih =>
    rw [List.forall_mem_cons] at hfg
    rw [List.map_cons, List.map_cons, hfg.1 _ hab, ih hfg.2]

/-- Lists made of the items and of the results are equal if they are made of equal parts. -/
theorem flatMap_eq_of_forall₂ {f : α → List γ} {g : β → List γ} (h : List.Forall₂ r l l')
    (hfg : ∀ a b, r a b → f a = g b) : l.flatMap f = l'.flatMap g := by
  induction h with
  | nil => rfl
  | cons hab _ ih => rw [List.flatMap_cons, List.flatMap_cons, hfg _ _ hab, ih]

end

/-- The results for what the items of a list are made into, if each item has its own. -/
theorem forall₂_flatMap {α β γ : Type} {r : β → γ → Prop} {f : α → List β} {g : α → List γ} :
    ∀ {l : List α}, (∀ a ∈ l, List.Forall₂ r (f a) (g a)) →
      List.Forall₂ r (l.flatMap f) (l.flatMap g)
  | [], _ => .nil
  | a :: l, h => by
      obtain ⟨ha, hl⟩ := List.forall_mem_cons.mp h
      exact List.rel_append ha (forall₂_flatMap hl)

/-- Items made of those that pass a test. -/
theorem flatMap_if {α β : Type} (p : α → Bool) (f : α → β) (l : List α) :
    l.flatMap (fun a => if p a then [f a] else []) = (l.filter p).map f := by
  induction l with
  | nil => rfl
  | cons a l ih =>
    rw [List.flatMap_cons, ih]
    cases h : p a <;> simp [h]

end ProseLinter
