import Mathlib

/-!
# Proofs/StableSort — a stable sort is pinned down by its fibres

Sorting by a key says nothing of items with one key; a *stable* sort leaves each **fibre** of the
key, the items with one value of it, as it found it.  A sorted list is determined by its fibres
(`eq_of_fibres`), so `StablySorted` — sorted, with the fibres of another list — says all there is to
say of a stable sort (`stablySorted_iff_eq_mergeSort`).  The items themselves are never compared,
only their keys; where these tell them apart, a list sorted without its repetitions is strictly
increasing (`pairwise_lt_eraseDups`).
-/

namespace ProseLinter

variable {α κ : Type*} [LinearOrder κ] {key : α → κ}

/-- **Sorted lists with the same fibres are equal.**  Their heads have the least key of either list,
so they lie in one fibre and are the head of it. -/
theorem eq_of_fibres : ∀ {l l' : List α}, l.Pairwise (fun a b => key a ≤ key b) →
    l'.Pairwise (fun a b => key a ≤ key b) →
      (∀ k, l.filter (key · = k) = l'.filter (key · = k)) → l = l'
  | [], [], _, _, _ => rfl
  | [], b :: l', _, _, h => by
      have hfibre := h (key b)
      simp at hfibre
  | a :: l, [], _, _, h => by
      have hfibre := h (key a)
      simp at hfibre
  | a :: l, b :: l', hl, hl', h => by
      obtain ⟨ha, htl⟩ := List.pairwise_cons.mp hl
      obtain ⟨hb, htl'⟩ := List.pairwise_cons.mp hl'
      have hab : key a = key b := by
        have hbl : b ∈ (a :: l).filter (key · = key b) := by rw [h]; simp
        have hal : a ∈ (b :: l').filter (key · = key a) := by rw [← h]; simp
        refine le_antisymm ?_ ?_
        · rcases List.mem_cons.mp (List.mem_filter.mp hbl).1 with rfl | hm
          exacts [le_rfl, ha b hm]
        · rcases List.mem_cons.mp (List.mem_filter.mp hal).1 with rfl | hm
          exacts [le_rfl, hb a hm]
      have hhead : a = b := by
        have hfibre := h (key a)
        rw [List.filter_cons_of_pos (by simp), List.filter_cons_of_pos (by simp [hab])] at hfibre
        exact (List.cons.inj hfibre).1
      have htail : ∀ k, l.filter (key · = k) = l'.filter (key · = k) := fun k => by
        have hk := h k
        by_cases hak : key a = k
        · rw [List.filter_cons_of_pos (by simp [hak]),
            List.filter_cons_of_pos (by simp [← hab, hak])] at hk
          exact (List.cons.inj hk).2
        · rwa [List.filter_cons_of_neg (by simp [hak]),
            List.filter_cons_of_neg (by simp [← hab, hak])] at hk
      rw [hhead, eq_of_fibres htl htl' htail]

/-- **A list sorted by a key, stably**: sorted, with the fibres of the list that it was made of. -/
structure StablySorted (key : α → κ) (l sorted : List α) : Prop where
  pairwise : sorted.Pairwise fun a b => key a ≤ key b
  fibre : ∀ k, sorted.filter (key · = k) = l.filter (key · = k)

theorem stablySorted_mergeSort {le : α → α → Bool} (hle : ∀ a b, le a b = true ↔ key a ≤ key b)
    (l : List α) : StablySorted key l (l.mergeSort le) := by
  have htrans : ∀ a b c, le a b = true → le b c = true → le a c = true := fun a b c hab hbc =>
    (hle a c).mpr (le_trans ((hle a b).mp hab) ((hle b c).mp hbc))
  have htotal : ∀ a b, (le a b || le b a) = true := fun a b => by
    rw [Bool.or_eq_true, hle, hle]
    exact le_total _ _
  refine ⟨(List.pairwise_mergeSort htrans htotal l).imp fun h => (hle _ _).mp h, fun k => ?_⟩
  -- a fibre is sorted already, so the merge sort keeps it as a sublist; by its length it is all
  have hsorted : (l.filter (key · = k)).Pairwise fun a b => le a b = true := by
    refine List.pairwise_iff_getElem.mpr fun i j hi hj _ => (hle _ _).mpr (le_of_eq ?_)
    have hki := (List.mem_filter.mp (List.getElem_mem hi)).2
    have hkj := (List.mem_filter.mp (List.getElem_mem hj)).2
    rw [of_decide_eq_true hki, of_decide_eq_true hkj]
  have hsub := (List.sublist_mergeSort htrans htotal hsorted List.filter_sublist).filter (key · = k)
  simp only [List.filter_filter, Bool.and_self] at hsub
  exact (hsub.eq_of_length ((List.mergeSort_perm l le).filter _).length_eq.symm).symm

/-- Lists with the same fibres have the same stable sort. -/
theorem StablySorted.unique {l l' s s' : List α} (hs : StablySorted key l s)
    (hs' : StablySorted key l' s') (h : ∀ k, l.filter (key · = k) = l'.filter (key · = k)) :
    s = s' :=
  eq_of_fibres hs.pairwise hs'.pairwise fun k => by rw [hs.fibre, hs'.fibre, h]

/-- **Merge sort is the stable sort.** -/
theorem stablySorted_iff_eq_mergeSort {le : α → α → Bool}
    (hle : ∀ a b, le a b = true ↔ key a ≤ key b) {l s : List α} :
    StablySorted key l s ↔ s = l.mergeSort le := by
  refine ⟨fun hs => hs.unique (stablySorted_mergeSort hle l) fun _ => rfl, fun h => ?_⟩
  rw [h]
  exact stablySorted_mergeSort hle l

/-- A stable sort keeps all items. -/
theorem StablySorted.perm {l s : List α} (hs : StablySorted key l s) : s.Perm l := by
  have hle : ∀ a b, decide (key a ≤ key b) = true ↔ key a ≤ key b := fun _ _ => decide_eq_true_iff
  rw [(stablySorted_iff_eq_mergeSort hle).mp hs]
  exact List.mergeSort_perm l _

/-- Some of the items of a stable sort are a stable sort of these items. -/
theorem StablySorted.filter {l s : List α} (hs : StablySorted key l s) (p : α → Bool) :
    StablySorted key (l.filter p) (s.filter p) := by
  refine ⟨hs.pairwise.filter p, fun k => ?_⟩
  rw [List.filter_comm, hs.fibre, List.filter_comm]

/-! ## Items each of them once -/

/-- A list without its repetitions has nothing twice. -/
theorem nodup_eraseDups [DecidableEq α] : ∀ l : List α, l.eraseDups.Nodup
  | [] => by simp
  | b :: l => by
      rw [List.eraseDups_cons, List.nodup_cons, List.mem_eraseDups]
      exact ⟨by simp, nodup_eraseDups _⟩
termination_by l => l.length
decreasing_by exact Nat.lt_succ_of_le (List.length_filter_le _ _)

/-- **Sorted without repetitions**, items with keys of their own are strictly increasing. -/
theorem pairwise_lt_eraseDups [DecidableEq α] (hkey : Function.Injective key)
    {le : α → α → Bool} (hle : ∀ a b, le a b = true ↔ key a ≤ key b) (l : List α) :
    (l.eraseDups.mergeSort le).Pairwise fun a b => key a < key b := by
  have hsorted := (stablySorted_mergeSort hle l.eraseDups).pairwise
  have hnodup : (l.eraseDups.mergeSort le).Nodup :=
    (List.mergeSort_perm _ _).nodup_iff.mpr (nodup_eraseDups l)
  exact (hsorted.and hnodup).imp fun ⟨hle, hne⟩ => hle.lt_of_ne fun heq => hne (hkey heq)

end ProseLinter
