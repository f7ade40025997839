import ProseLinter.Extension.Load
import ProseLinter.Proofs.Path

/-!
# Proofs/Extension/Names — dotted names and the modules on the way to them

A dotted name is the same as the list of its parts, none of which has a dot in it
(`Workspace.dotted_dottedParts`, `Workspace.dottedParts_dotted`).  On the way to a module are its
parents and the module itself, the outermost first (`Workspace.lineage`); importing goes through
them, so what follows is by induction on the parts, the last one first.
-/

namespace ProseLinter

namespace Workspace

/-! ## Dotted names -/

/-- **Parts of dotted names**: none of them has a dot in it. -/
def AreParts (parts : List String) : Prop := ∀ part ∈ parts, '.' ∉ part.toList

variable {parts parts' : List String} {name name' part : String}

theorem areParts_cons : AreParts (part :: parts) ↔ '.' ∉ part.toList ∧ AreParts parts :=
  List.forall_mem_cons

theorem AreParts.reverse (h : AreParts parts) : AreParts parts.reverse :=
  fun part hpart => h part (List.mem_reverse.mp hpart)

theorem areParts_dottedParts (name : String) : AreParts (dottedParts name) := fun part hpart => by
  obtain ⟨cs, hcs, rfl⟩ := List.mem_map.mp hpart
  rw [String.toList_ofList]
  exact Text.sep_not_mem_of_mem_splitOn hcs

theorem dottedParts_ne_nil (name : String) : dottedParts name ≠ [] :=
  fun h => Text.splitOn_ne_nil '.' name.toList (List.map_eq_nil_iff.mp h)

/-- A name is its parts… -/
@[simp] theorem dotted_dottedParts (name : String) : dotted (dottedParts name) = name := by
  have htexts : (dottedParts name).map String.toList = Text.splitOn '.' name.toList := by
    rw [dottedParts, List.map_map]
    exact List.map_id'' (fun _ => String.toList_ofList) _
  rw [dotted, htexts, Text.join_splitOn, String.ofList_toList]

/-- …and parts are those of their name. -/
theorem dottedParts_dotted (hne : parts ≠ []) (h : AreParts parts) :
    dottedParts (dotted parts) = parts := by
  have htexts : ∀ cs ∈ parts.map String.toList, '.' ∉ cs := fun cs hcs => by
    obtain ⟨part, hpart, rfl⟩ := List.mem_map.mp hcs
    exact h part hpart
  rw [dottedParts, dotted, String.toList_ofList,
    Text.splitOn_join (fun hnil => hne (List.map_eq_nil_iff.mp hnil)) htexts, List.map_map]
  exact List.map_id'' (fun _ => String.ofList_toList) _

/-- **Different parts have different names.** -/
theorem dotted_inj (hne : parts ≠ []) (hne' : parts' ≠ []) (h : AreParts parts)
    (h' : AreParts parts') (heq : dotted parts = dotted parts') : parts = parts' := by
  rw [← dottedParts_dotted hne h, heq, dottedParts_dotted hne' h']

/-! ## The modules on the way -/

/-- The name of a module whose parts are given from the last one to the first. -/
def nameUp (up : List String) : String := dotted up.reverse

theorem nameUp_inj {up up' : List String} (hne : up ≠ []) (hne' : up' ≠ []) (h : AreParts up)
    (h' : AreParts up') (heq : nameUp up = nameUp up') : up = up' :=
  List.reverse_injective (dotted_inj (mt List.reverse_eq_nil_iff.mp hne)
    (mt List.reverse_eq_nil_iff.mp hne') h.reverse h'.reverse heq)

/-- The modules on the way to the one with the given parts, the last part first. -/
def lineageUp : List String → List String
  | [] => []
  | part :: above => lineageUp above ++ [nameUp (part :: above)]

/-- **The modules on the way** to a module: its parents, the outermost first, and itself. -/
def lineage (name : String) : List String := lineageUp (dottedParts name).reverse

example : lineage "a.b.c" = ["a", "a.b", "a.b.c"] := by cbv

@[simp] theorem nameUp_dottedParts (name : String) : nameUp (dottedParts name).reverse = name := by
  rw [nameUp, List.reverse_reverse, dotted_dottedParts]

theorem areParts_up (name : String) : AreParts (dottedParts name).reverse :=
  (areParts_dottedParts name).reverse

theorem up_ne_nil (name : String) : (dottedParts name).reverse ≠ [] :=
  mt List.reverse_eq_nil_iff.mp (dottedParts_ne_nil name)

/-- On the way are the modules of the parts and of those before them. -/
theorem mem_lineageUp_iff {up : List String} :
    name ∈ lineageUp up ↔ ∃ part above, part :: above <:+ up ∧ name = nameUp (part :: above) := by
  induction up with
  | nil =>
    refine ⟨fun h => absurd h List.not_mem_nil, ?_⟩
    rintro ⟨part, above, hsuffix, -⟩
    exact absurd (List.suffix_nil.mp hsuffix) (List.cons_ne_nil _ _)
  | cons last up ih =>
    rw [lineageUp, List.mem_append, List.mem_singleton, ih]
    constructor
    · rintro (⟨part, above, hsuffix, rfl⟩ | rfl)
      · exact ⟨part, above, hsuffix.trans (List.suffix_cons last up), rfl⟩
      · exact ⟨last, up, List.suffix_rfl, rfl⟩
    · rintro ⟨part, above, hsuffix, rfl⟩
      rcases List.suffix_cons_iff.mp hsuffix with heq | hsuffix
      · exact Or.inr (congrArg nameUp heq)
      · exact Or.inl ⟨part, above, hsuffix, rfl⟩

/-- Names on the way to a parent are on the way. -/
theorem lineageUp_subset {up up' : List String} (h : up <:+ up') :
    lineageUp up ⊆ lineageUp up' := fun name hname => by
  obtain ⟨part, above, hsuffix, rfl⟩ := mem_lineageUp_iff.mp hname
  exact mem_lineageUp_iff.mpr ⟨part, above, hsuffix.trans h, rfl⟩

theorem nameUp_mem_lineageUp (part : String) (above : List String) :
    nameUp (part :: above) ∈ lineageUp (part :: above) :=
  List.mem_append_right _ List.mem_cons_self

/-- A module is on the way to itself. -/
theorem mem_lineage_self (name : String) : name ∈ lineage name := by
  obtain ⟨last, front, hup⟩ := List.exists_cons_of_ne_nil (up_ne_nil name)
  have hmem := nameUp_mem_lineageUp last front
  rwa [← hup, nameUp_dottedParts] at hmem

/-- A module is not on the way to its parents. -/
theorem nameUp_not_mem_lineageUp {above : List String} (h : AreParts (part :: above)) :
    nameUp (part :: above) ∉ lineageUp above := fun hmem => by
  obtain ⟨part', above', hsuffix, heq⟩ := mem_lineageUp_iff.mp hmem
  have hparts : AreParts (part' :: above') := fun p hp =>
    h p (List.mem_cons_of_mem part (hsuffix.mem hp))
  have hup := nameUp_inj (List.cons_ne_nil _ _) (List.cons_ne_nil _ _) h hparts heq
  have hlength := hsuffix.length_le
  rw [← hup, List.length_cons] at hlength
  exact absurd hlength (Nat.not_succ_le_self _)

end Workspace

end ProseLinter
