import ProseLinter.Proofs.Scan.Selection

/-!
# Proofs/Scan/Order — when the order of the inputs matters

Inputs in another order have the same files, but a file may get another base, and patterns are held
against its names from there.  So two orders select the same files under all patterns exactly if
each file has the same base in both (`run_perm_iff`): bases that differ are told apart by the length
of the names below them.  Inputs that are not above one another have no order
(`run_eq_of_apart`).
-/

namespace ProseLinter

/-! ## Patterns of question marks -/

namespace Wildcard

theorem parse_replicate (n : ℕ) : parse (List.replicate n '?') = List.replicate n .any := by
  induction n with
  | zero => rw [List.replicate_zero, parse, List.replicate_zero]
  | succ n ih =>
    rw [List.replicate_succ, parse, if_neg (by decide), if_pos rfl, ih, List.replicate_succ]

theorem run_replicate (n : ℕ) (cs : List Char) :
    run (List.replicate n .any) cs = true ↔ cs.length = n := by
  induction n generalizing cs with
  | zero => simp [run]
  | succ n ih => cases cs <;> simp [List.replicate_succ, run, accepts, ih]

end Wildcard

theorem Glob.splitFirst?_replicate (n : ℕ) :
    splitFirst? "**".toList (List.replicate n '?') = none := by
  induction n with
  | zero => decide
  | succ n ih =>
    have hprefix : "**".toList.isPrefixOf ('?' :: List.replicate n '?') = false := rfl
    rw [List.replicate_succ, splitFirst?, hprefix, if_neg Bool.false_ne_true, ih, Option.map_none]

/-- **Question marks match by length.** -/
theorem Glob.matches_replicate (n : ℕ) (cs : List Char) :
    Glob.matches (List.replicate n '?') cs = true ↔ cs.length = n := by
  rw [Glob.matches, splitFirst?_replicate]
  simp only
  rw [Wildcard.matches_eq_run, Wildcard.parse_replicate, Wildcard.run_replicate]

namespace Scan

open Entry

variable {α : Type} {tree : Entry α} {cwd : Location} {f b b' : Path}
  {l₁ l₂ files : List Path} {names names' more : List String}

/-! ## The length of names -/

theorem accepts_questions_iff {n : ℕ} :
    Accepts [String.ofList (List.replicate n '?')] [] names ↔ (slashed names).length = n := by
  simp [Accepts, Glob.matches_replicate]

/-- More names are longer. -/
theorem length_slashed_lt (hmore : more ≠ []) (hnames : names ≠ []) :
    (slashed names).length < (slashed (more ++ names)).length := by
  induction more with
  | nil => exact absurd rfl hmore
  | cons name more ih =>
    have hne : more ++ names ≠ [] := by simp [hnames]
    have hle : (slashed names).length ≤ (slashed (more ++ names)).length := by
      by_cases h : more = []
      · rw [h, List.nil_append]
      · exact (ih h).le
    obtain ⟨first, rest, heq⟩ := List.exists_cons_of_ne_nil hne
    refine hle.trans_lt ?_
    rw [List.cons_append, heq]
    simp only [slashed, List.map_cons, Text.join_cons_cons, List.length_map, List.length_append]
    simp only [List.length_cons, List.length_nil]
    omega

/-- **Bases that differ are told apart** by the length of the names below them. -/
theorem eq_of_length_slashed_eq (hbelow : b.below names = b'.below names') (hnames : names ≠ [])
    (hnames' : names' ≠ []) (hlength : (slashed names).length = (slashed names').length) :
    b = b' := by
  obtain ⟨hroot, happend⟩ := Path.mk.inj hbelow
  have hsame : names = names' := by
    rcases List.append_eq_append_iff.mp happend with ⟨more, -, rfl⟩ | ⟨more, -, rfl⟩
    · by_contra hne
      have hmore : more ≠ [] := by rintro rfl; exact hne rfl
      exact absurd hlength (length_slashed_lt hmore hnames').ne'
    · by_contra hne
      have hmore : more ≠ [] := by rintro rfl; exact hne rfl
      exact absurd hlength (length_slashed_lt hmore hnames).ne
  subst hsame
  obtain ⟨root, front⟩ := b
  obtain ⟨root', front'⟩ := b'
  rw [Path.mk.injEq]
  exact ⟨hroot, List.append_cancel_right happend⟩

/-! ## Inputs with the same files -/

/-- **Inputs with the same files**: either list of them can be collected if the other one can, and
the same files are. -/
structure SameFiles (tree : Entry α) (cwd : Location) (l₁ l₂ : List Path) : Prop where
  collected : (∃ files, collect tree cwd l₁ = .ok files) ↔ ∃ files, collect tree cwd l₂ = .ok files
  mem_iff : ∀ {files files'}, collect tree cwd l₁ = .ok files → collect tree cwd l₂ = .ok files' →
    ∀ f, f ∈ files ↔ f ∈ files'

theorem SameFiles.exists_collect (hsame : SameFiles tree cwd l₁ l₂)
    (hcollect : collect tree cwd l₁ = .ok files) :
    ∃ files', collect tree cwd l₂ = .ok files' ∧ ∀ f, f ∈ files ↔ f ∈ files' := by
  obtain ⟨files', hcollect'⟩ := hsame.collected.mp ⟨files, hcollect⟩
  exact ⟨files', hcollect', hsame.mem_iff hcollect hcollect'⟩

/-- **Files that keep their bases are selected as before.** -/
theorem SameFiles.run_files_eq (hsame : SameFiles tree cwd l₁ l₂) (h : Stands tree cwd)
    (hexists : ∀ p ∈ l₁, tree.exists? cwd p = .ok true)
    (hexists' : ∀ p ∈ l₂, tree.exists? cwd p = .ok true)
    (hbase : ∀ files, collect tree cwd l₁ = .ok files → ∀ f ∈ files,
      ∃ b, HasBase tree cwd l₁ f b ∧ HasBase tree cwd l₂ f b)
    (included excluded : List String) :
    (run tree cwd included excluded l₁).map (·.files) =
      (run tree cwd included excluded l₂).map (·.files) := by
  by_cases hfiles : ∃ files, collect tree cwd l₁ = .ok files
  · obtain ⟨files, hcollect⟩ := hfiles
    obtain ⟨files', hcollect', hmem⟩ := hsame.exists_collect hcollect
    obtain ⟨scan, hrun, hincreasing, hscan⟩ :=
      exists_run_accepts h hexists hcollect included excluded
    obtain ⟨scan', hrun', hincreasing', hscan'⟩ :=
      exists_run_accepts h hexists' hcollect' included excluded
    have heq : scan.files = scan'.files := by
      refine Path.eq_of_increasing hincreasing hincreasing' fun f => ?_
      rw [hscan, hscan', hmem]
      refine and_congr_right fun hf => ?_
      obtain ⟨b, hb, hb'⟩ := hbase files hcollect f ((hmem f).mpr hf)
      constructor
      · rintro ⟨b'', names, hb'', hbelow, haccepts⟩
        exact ⟨b'', names, hb''.unique hb ▸ hb', hbelow, haccepts⟩
      · rintro ⟨b'', names, hb'', hbelow, haccepts⟩
        exact ⟨b'', names, hb''.unique hb' ▸ hb, hbelow, haccepts⟩
    rw [hrun, hrun', Except.map, Except.map, heq]
  · rw [run_of_not_collect h hexists hfiles,
      run_of_not_collect h hexists' (mt hsame.collected.mpr hfiles)]

/-! ## Inputs in another order -/

theorem SameFiles.of_perm (hperm : l₁.Perm l₂) : SameFiles tree cwd l₁ l₂ where
  collected := by simp only [exists_collect_iff, hperm.mem_iff]
  mem_iff hcollect hcollect' f := by
    simp only [mem_collect_iff hcollect, mem_collect_iff hcollect', hperm.mem_iff]

/-- **Inputs in another order have the same files.** -/
theorem exists_collect_of_perm (hperm : l₁.Perm l₂)
    (hcollect : collect tree cwd l₁ = .ok files) :
    ∃ files', collect tree cwd l₂ = .ok files' ∧ ∀ f, f ∈ files ↔ f ∈ files' :=
  (SameFiles.of_perm hperm).exists_collect hcollect

/-- Files that keep their bases in another order of the inputs are selected as before. -/
theorem run_files_eq (h : Stands tree cwd) (hperm : l₁.Perm l₂)
    (hexists : ∀ p ∈ l₁, tree.exists? cwd p = .ok true)
    (hbase : ∀ files, collect tree cwd l₁ = .ok files → ∀ f ∈ files,
      ∃ b, HasBase tree cwd l₁ f b ∧ HasBase tree cwd l₂ f b)
    (included excluded : List String) :
    (run tree cwd included excluded l₁).map (·.files) =
      (run tree cwd included excluded l₂).map (·.files) :=
  (SameFiles.of_perm hperm).run_files_eq h hexists
    (fun p hp => hexists p (hperm.mem_iff.mpr hp)) hbase included excluded

/-- **When the order of the inputs does not matter**: two orders select the same files under all
patterns exactly if every collected file has the same base in both. -/
theorem run_perm_iff (h : Stands tree cwd) (hperm : l₁.Perm l₂)
    (hexists : ∀ p ∈ l₁, tree.exists? cwd p = .ok true) :
    (∀ included excluded, (run tree cwd included excluded l₁).map (·.files) =
        (run tree cwd included excluded l₂).map (·.files)) ↔
      ∀ files, collect tree cwd l₁ = .ok files → ∀ f ∈ files,
        ∃ b, HasBase tree cwd l₁ f b ∧ HasBase tree cwd l₂ f b := by
  refine ⟨fun hsame files hcollect f hf => ?_, run_files_eq h hperm hexists⟩
  have hexists' : ∀ p ∈ l₂, tree.exists? cwd p = .ok true :=
    fun p hp => hexists p (hperm.mem_iff.mpr hp)
  obtain ⟨files', hcollect', hmem⟩ := exists_collect_of_perm hperm hcollect
  obtain ⟨b, names, hb, hnames, hbelow, -⟩ := exists_hasBase_below h hexists hcollect hf
  obtain ⟨b', names', hb', hnames', hbelow', -⟩ :=
    exists_hasBase_below h hexists' hcollect' ((hmem f).mp hf)
  -- question marks that accept the names below the first base by their length alone
  let questions := String.ofList (List.replicate (slashed names).length '?')
  obtain ⟨scan, hrun, -, hscan⟩ := exists_run_accepts h hexists hcollect [questions] []
  obtain ⟨scan', hrun', -, hscan'⟩ := exists_run_accepts h hexists' hcollect' [questions] []
  have hfiles : scan.files = scan'.files := by
    have heq := hsame [questions] []
    rw [hrun, hrun'] at heq
    exact Except.ok.inj heq
  have hselected : f ∈ scan.files :=
    (hscan f).mpr ⟨hf, b, names, hb, hbelow, accepts_questions_iff.mpr rfl⟩
  rw [hfiles, hscan'] at hselected
  obtain ⟨-, b'', names'', hb'', hbelow'', haccepts⟩ := hselected
  obtain rfl := hb''.unique hb'
  obtain rfl : names'' = names' := by simpa [Path.below] using hbelow''.symm.trans hbelow'
  obtain rfl := eq_of_length_slashed_eq (hbelow'.symm.trans hbelow) hnames' hnames
    (accepts_questions_iff.mp haccepts)
  exact ⟨b'', hb, hb'⟩

/-- The condition on a directory and one in it, in both orders. -/
theorem run_perm_iff_nested :
    (∀ included excluded,
        (run nested [] included excluded [.ofText "d", .ofText "d/s"]).map (·.files) =
          (run nested [] included excluded [.ofText "d/s", .ofText "d"]).map (·.files)) ↔
      ∀ files, collect nested [] [.ofText "d", .ofText "d/s"] = .ok files → ∀ f ∈ files,
        ∃ b, HasBase nested [] [.ofText "d", .ofText "d/s"] f b ∧
          HasBase nested [] [.ofText "d/s", .ofText "d"] f b := by
  refine run_perm_iff ⟨by decide, _, rfl⟩ (.swap _ _ []) ?_
  simp only [List.forall_mem_cons]
  exact ⟨by cbv, by cbv, nofun⟩

/-- **The order of a directory and one in it matters**: the file in the inner one has the name that
a pattern matches only if the outer one comes first. -/
theorem run_nested_swapped :
    Stands nested [] ∧
      [Path.ofText "d", .ofText "d/s"].Perm [.ofText "d/s", .ofText "d"] ∧
      nested.exists? [] (.ofText "d") = .ok true ∧ nested.exists? [] (.ofText "d/s") = .ok true ∧
      run nested [] ["s/*"] [] [.ofText "d", .ofText "d/s"] =
        .ok ⟨[], [⟨.absolute, ["d", "s", "b"]⟩]⟩ ∧
      run nested [] ["s/*"] [] [.ofText "d/s", .ofText "d"] = .ok ⟨[], []⟩ :=
  ⟨⟨by decide, _, rfl⟩, .swap _ _ [], by cbv, by cbv, by cbv, by cbv⟩

/-! ## Inputs apart from one another -/

/-- **Inputs are apart** if none of them lies below another. -/
def Apart (tree : Entry α) (cwd : Location) (inputs : List Path) : Prop :=
  ∀ p ∈ inputs, ∀ q ∈ inputs, ∀ loc e loc' e', InputAt tree cwd p loc e →
    InputAt tree cwd q loc' e' → loc <+: loc' → loc = loc'

/-- Inputs that are apart give a file the same base. -/
theorem Apart.eq_of_gives {inputs : List Path} {p q : Path} (hapart : Apart tree cwd inputs)
    (hp : p ∈ inputs) (hq : q ∈ inputs) (hb : Gives tree cwd p f b)
    (hb' : Gives tree cwd q f b') : b = b' := by
  have hbelow : ∀ {p q loc e loc' e' names}, p ∈ inputs → q ∈ inputs → InputAt tree cwd p loc e →
      InputAt tree cwd q loc' e' → loc' = loc ++ names → names = [] := by
    intro p q loc e loc' e' names hp hq hat hat' heq
    have hloc := hapart p hp q hq _ _ _ _ hat hat' ⟨names, heq.symm⟩
    rw [hloc] at heq
    exact List.self_eq_append_right.mp heq
  cases hb with
  | parent hat hf =>
    cases hb' with
    | parent => rfl
    | above hat' hnames hf' =>
      exact absurd (hbelow hq hp hat' hat (Path.mk.inj (hf.symm.trans hf')).2) hnames
  | above hat hnames hf =>
    cases hb' with
    | parent hat' hf' =>
      exact absurd (hbelow hp hq hat hat' (Path.mk.inj (hf'.symm.trans hf)).2) hnames
    | above hat' hnames' hf' =>
      rcases List.append_eq_append_iff.mp (Path.mk.inj (hf.symm.trans hf')).2 with
        ⟨more, hmore, -⟩ | ⟨more, hmore, -⟩
      · rw [hbelow hp hq hat hat' hmore, List.append_nil] at hmore
        exact congrArg _ hmore.symm
      · rw [hbelow hq hp hat' hat hmore, List.append_nil] at hmore
        exact congrArg _ hmore

/-- **Inputs that are apart have no order.** -/
theorem run_eq_of_apart (h : Stands tree cwd) (hperm : l₁.Perm l₂)
    (hexists : ∀ p ∈ l₁, tree.exists? cwd p = .ok true) (hapart : Apart tree cwd l₁)
    (included excluded : List String) :
    (run tree cwd included excluded l₁).map (·.files) =
      (run tree cwd included excluded l₂).map (·.files) := by
  have hexists' : ∀ p ∈ l₂, tree.exists? cwd p = .ok true :=
    fun p hp => hexists p (hperm.mem_iff.mpr hp)
  refine run_files_eq h hperm hexists (fun files hcollect f hf => ?_) included excluded
  obtain ⟨files', hcollect', hmem⟩ := exists_collect_of_perm hperm hcollect
  obtain ⟨b, hb, -⟩ := exists_hasBase_of_mem h hexists hcollect hf
  obtain ⟨b', hb', -⟩ := exists_hasBase_of_mem h hexists' hcollect' ((hmem f).mp hf)
  obtain ⟨before, p, after, rfl, hgives, -⟩ := id hb
  obtain ⟨before', q, after', rfl, hgives', -⟩ := id hb'
  have hsame : b = b' :=
    hapart.eq_of_gives (by simp) (hperm.mem_iff.mpr (by simp)) hgives hgives'
  exact ⟨b, hb, hsame ▸ hb'⟩

end Scan

end ProseLinter
