import ProseLinter.Proofs.Scan.Order

/-!
# Proofs/Scan/Absorbed — inputs that lie below an earlier one

An input that lies at or below another one brings no files that the other one has not
(`LiesBelow.exists_filesOf`), and it gives a base only to files to which the other one gives one too
(`LiesBelow.exists_gives`).  So it is absorbed wherever it comes after the other one: the same files
are collected (`LiesBelow.sameFiles`), each of them keeps its base (`hasBase_insert_iff`), and a
scan selects what it selected without it (`run_insert_below`).
-/

namespace ProseLinter.Scan

open Entry

variable {α : Type} {tree e : Entry α} {cwd : Location} {p q f b : Path}
  {before after part : List Path}

/-! ## Bases -/

/-- **An input that gives a base only after another one** changes no base. -/
theorem hasBase_insert_iff
    (hgives : ∀ b, Gives tree cwd p f b → ∃ q ∈ before, ∃ b', Gives tree cwd q f b') :
    HasBase tree cwd (before ++ p :: after) f b ↔ HasBase tree cwd (before ++ after) f b := by
  induction before with
  | nil =>
    have hnone : ∀ b, ¬ Gives tree cwd p f b := fun b hb => by simpa using hgives b hb
    rw [List.nil_append, List.nil_append, hasBase_cons_iff]
    exact ⟨fun hb => (hb.resolve_left (hnone b)).2, fun hb => Or.inr ⟨hnone, hb⟩⟩
  | cons first before ih =>
    rw [List.cons_append, List.cons_append, hasBase_cons_iff, hasBase_cons_iff]
    refine or_congr_right (and_congr_right fun hfirst => ih fun b hb => ?_)
    obtain ⟨q, hq, b', hb'⟩ := hgives b hb
    exact ⟨q, (List.mem_cons.mp hq).resolve_left fun heq => hfirst b' (heq ▸ hb'), b', hb'⟩

/-! ## Inputs below one another -/

/-- **An input lies at or below another one** if its resolved path is the other one's, with more
names or none. -/
def LiesBelow (tree : Entry α) (cwd : Location) (p q : Path) : Prop :=
  ∃ root names, tree.resolve cwd q = .ok root ∧ tree.resolve cwd p = .ok (root.below names)

section

variable (hbelow : LiesBelow tree cwd p q) (h : Stands tree cwd)
  (hp : tree.exists? cwd p = .ok true) (hq : tree.exists? cwd q = .ok true)

include hbelow h hp hq

/-- What an input stands for is found below what the other one stands for. -/
theorem LiesBelow.exists_at? : ∃ loc e names d, InputAt tree cwd q loc e ∧ e.isLink = false ∧
    InputAt tree cwd p (loc ++ names) d ∧ d.isLink = false ∧ e.at? names = some d := by
  obtain ⟨root, names, hroot, hresolve⟩ := hbelow
  obtain ⟨loc, e, hqat, he⟩ := exists_inputAt h hq
  obtain ⟨loc', d, hpat, hd⟩ := exists_inputAt h hp
  obtain rfl := Except.ok.inj (hqat.resolve_eq.symm.trans hroot)
  obtain rfl : loc' = loc ++ names :=
    congrArg Path.names (Except.ok.inj (hpat.resolve_eq.symm.trans hresolve))
  have hat := hpat.at?_eq
  rw [at?_append, hqat.at?_eq, Option.bind_some] at hat
  exact ⟨loc, e, names, d, hqat, he, hpat, hd, hat⟩

/-- **It has files** if the other one has, and they are files of the other one. -/
theorem LiesBelow.exists_filesOf (hpart : FilesOf tree cwd q part) :
    ∃ part', FilesOf tree cwd p part' ∧ ∀ f ∈ part', f ∈ part := by
  obtain ⟨loc, e, names, d, hqat, he, hpat, hd, hat⟩ := hbelow.exists_at? h hp hq
  obtain ⟨part', hpart', hsub⟩ :=
    exists_filesAt_below h.isSound hqat.at?_eq he hat hd (hpart.filesAt hqat)
  exact ⟨part', ⟨_, hpat.resolve_eq, hpart'⟩, hsub⟩

/-- **It gives no base** to a file to which the other one gives none. -/
theorem LiesBelow.exists_gives (hb : Gives tree cwd p f b) : ∃ b', Gives tree cwd q f b' := by
  obtain ⟨loc, e, names, d, hqat, he, hpat, -, hat⟩ := hbelow.exists_at? h hp hq
  cases e with
  | link target => cases he
  | file content =>
    -- only the file itself lies at or below it
    obtain rfl : names = [] := by
      cases names with
      | nil => rfl
      | cons name names => simp [at?_cons_eq_some_iff] at hat
    obtain rfl := Option.some.inj ((at?_nil _).symm.trans hat)
    rw [List.append_nil] at hpat
    cases hb with
    | parent hfile hf => exact ⟨_, .parent hqat ((hpat.unique hfile).1 ▸ hf)⟩
    | above hdirectory => cases (hpat.unique hdirectory).2
  | directory cs =>
    cases hb with
    | parent hfile hf =>
      obtain ⟨rfl, rfl⟩ := hpat.unique hfile
      have hnames : names ≠ [] := by
        rintro rfl
        rw [at?_nil] at hat
        cases hat
      exact ⟨_, .above hqat hnames hf⟩
    | @above _ more _ hdirectory hmore hf =>
      obtain ⟨rfl, rfl⟩ := hpat.unique hdirectory
      have hnames : names ++ more ≠ [] := by simp [hmore]
      exact ⟨_, .above hqat hnames (by rw [hf, Path.below, Path.below, List.append_assoc])⟩

end

/-! ## Absorbed inputs -/

section

variable (hbelow : LiesBelow tree cwd p q) (hq : q ∈ before) (h : Stands tree cwd)
  (hp : tree.exists? cwd p = .ok true)
  (hexists : ∀ p ∈ before ++ after, tree.exists? cwd p = .ok true)

include hbelow hq h hp hexists

/-- **It adds no files** to those of the other inputs. -/
theorem LiesBelow.sameFiles : SameFiles tree cwd (before ++ p :: after) (before ++ after) := by
  have hqmem : q ∈ before ++ after := List.mem_append_left after hq
  have hmem : ∀ r, r ∈ before ++ p :: after ↔ r = p ∨ r ∈ before ++ after := by
    simp only [List.mem_append, List.mem_cons]
    tauto
  constructor
  · rw [exists_collect_iff, exists_collect_iff]
    simp only [hmem, forall_eq_or_imp]
    refine ⟨And.right, fun hfiles => ⟨?_, hfiles⟩⟩
    obtain ⟨part, hpart⟩ := hfiles q hqmem
    obtain ⟨part', hpart', -⟩ := hbelow.exists_filesOf h hp (hexists q hqmem) hpart
    exact ⟨part', hpart'⟩
  · intro files files' hcollect hcollect' f
    rw [mem_collect_iff hcollect, mem_collect_iff hcollect']
    simp only [hmem, exists_eq_or_imp, or_iff_right_iff_imp]
    rintro ⟨part, hpart, hf⟩
    obtain ⟨qpart, hqpart⟩ := exists_collect_iff.mp ⟨files', hcollect'⟩ q hqmem
    obtain ⟨part', hpart', hsub⟩ := hbelow.exists_filesOf h hp (hexists q hqmem) hqpart
    exact ⟨q, hqmem, qpart, hqpart, hsub f (hpart.unique hpart' ▸ hf)⟩

end

/-- **An input that lies below an earlier one is absorbed.**  Let an input lie at or below another
one, and let it be inserted anywhere after that: a scan selects the same files as without it, or
fails as it did. -/
theorem run_insert_below (h : Stands tree cwd) (hq : q ∈ before) (hbelow : LiesBelow tree cwd p q)
    (hp : tree.exists? cwd p = .ok true)
    (hexists : ∀ r ∈ before ++ after, tree.exists? cwd r = .ok true)
    (included excluded : List String) :
    (run tree cwd included excluded (before ++ p :: after)).map (·.files) =
      (run tree cwd included excluded (before ++ after)).map (·.files) := by
  have hqexists := hexists q (List.mem_append_left after hq)
  have hexists' : ∀ r ∈ before ++ p :: after, tree.exists? cwd r = .ok true := by
    rw [List.forall_mem_append] at hexists
    rw [List.forall_mem_append, List.forall_mem_cons]
    exact ⟨hexists.1, hp, hexists.2⟩
  refine (hbelow.sameFiles hq h hp hexists).run_files_eq h hexists' hexists
    (fun files hcollect f hf => ?_) included excluded
  obtain ⟨b, hb, -⟩ := exists_hasBase_of_mem h hexists' hcollect hf
  refine ⟨b, hb, (hasBase_insert_iff fun b' hb' => ?_).mp hb⟩
  exact ⟨q, hq, hbelow.exists_gives h hp hqexists hb'⟩

/-- The inner directory after the outer one, from which alone the pattern matches its file. -/
theorem run_insert_below_nested :
    LiesBelow nested [] (.ofText "d/s") (.ofText "d") ∧
      (run nested [] ["s/*"] [] [.ofText "d", .ofText "d/s", .ofText "."]).map (·.files) =
        (run nested [] ["s/*"] [] [.ofText "d", .ofText "."]).map (·.files) := by
  have hbelow : LiesBelow nested [] (.ofText "d/s") (.ofText "d") :=
    ⟨⟨.absolute, ["d"]⟩, ["s"], by cbv, by cbv⟩
  have hexists : ∀ r ∈ [Path.ofText "d"] ++ [.ofText "."], nested.exists? [] r = .ok true := by
    simp only [List.cons_append, List.nil_append, List.forall_mem_cons]
    exact ⟨by cbv, by cbv, List.forall_mem_nil _⟩
  have hrun := run_insert_below ⟨by decide, _, rfl⟩ (List.mem_singleton_self _) hbelow (by cbv)
    hexists ["s/*"] []
  exact ⟨hbelow, hrun⟩

end ProseLinter.Scan
