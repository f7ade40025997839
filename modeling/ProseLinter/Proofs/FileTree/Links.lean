import ProseLinter.Proofs.FileTree.Sound

/-!
# Proofs/FileTree/Links — where the links of a path lead

Names **lead** from a location to another one if each link among them is replaced by what its target
leads to (`Leads`).  Walking along names goes where they lead (`exists_leads_of_walk`), and so does
resolving, which remembers the links that it has met: a link is never met while its own target is
being resolved, since that would cost more links than the target has (`Leads.resolveFrom_eq`).

So a path that can be opened is resolved to the location where it is opened
(`resolve_of_openPath`), and a path is resolved at all wherever its links come to an end
(`resolve_of_leads`).
-/

namespace ProseLinter

namespace Entry

variable {α : Type} {tree e : Entry α} {cs : List (String × Entry α)} {name target : String}
  {loc loc' via mid cwd : Location} {names more : List String} {m n : ℕ} {p : Path}

/-! ## Leading somewhere -/

/-- Where the target of a link starts, if the link is in the directory at `loc`. -/
def startOf (target : String) (loc : Location) : Location :=
  if (Path.rootOf target.toList).isAbsolute then [] else loc

/-- **Names lead from a location to another one**, through some number of links. -/
inductive Leads (tree : Entry α) : ℕ → Location → List String → Location → Prop
  | done (loc : Location) : Leads tree 0 loc [] loc
  | stay {n : ℕ} {loc loc' : Location} {name : String} {names : List String} :
      name = "." → Leads tree n loc names loc' → Leads tree n loc (name :: names) loc'
  | up {n : ℕ} {loc loc' : Location} {name : String} {names : List String} :
      name = ".." → Leads tree n loc.dropLast names loc' → Leads tree n loc (name :: names) loc'
  | enter {n : ℕ} {loc loc' : Location} {name : String} {names : List String} :
      name ≠ "." → name ≠ ".." → tree.isLinkAt (loc ++ [name]) = none →
        Leads tree n (loc ++ [name]) names loc' → Leads tree n loc (name :: names) loc'
  | follow {m n : ℕ} {loc mid loc' : Location} {name target : String} {names : List String} :
      name ≠ "." → name ≠ ".." → tree.isLinkAt (loc ++ [name]) = some target →
        Leads tree m (startOf target loc) (Path.rawNames target.toList) mid →
          Leads tree n mid names loc' → Leads tree (m + 1 + n) loc (name :: names) loc'

/-- **A link leads somewhere**, through itself and the links of its target. -/
def LinkLeads (tree : Entry α) (n : ℕ) (via loc : Location) : Prop :=
  ∃ target m, tree.isLinkAt via = some target ∧ n = m + 1 ∧
    Leads tree m (startOf target via.dropLast) (Path.rawNames target.toList) loc

/-- **A location without links**: it is made of names, and stays where it is. -/
structure Plain (tree : Entry α) (loc : Location) : Prop where
  ne_dot : ∀ name ∈ loc, name ≠ "." ∧ name ≠ ".."
  isLinkAt : ∀ front, front <+: loc → tree.isLinkAt front = none

namespace Leads

/-- Names lead to one place, in one way. -/
theorem unique {n' : ℕ} {loc'' : Location} (h : Leads tree n loc names loc')
    (h' : Leads tree n' loc names loc'') : n = n' ∧ loc' = loc'' := by
  induction h generalizing n' loc'' with
  | done => cases h'; exact ⟨rfl, rfl⟩
  | stay hdot _ ih =>
    cases h' with
    | stay _ h' => exact ih h'
    | up hdots => exact absurd (hdot.symm.trans hdots) (by decide)
    | enter hne => exact absurd hdot hne
    | follow hne => exact absurd hdot hne
  | up hdots _ ih =>
    cases h' with
    | stay hdot => exact absurd (hdot.symm.trans hdots) (by decide)
    | up _ h' => exact ih h'
    | enter _ hne => exact absurd hdots hne
    | follow _ hne => exact absurd hdots hne
  | enter hdot hdots hnone _ ih =>
    cases h' with
    | stay heq => exact absurd heq hdot
    | up heq => exact absurd heq hdots
    | enter _ _ _ h' => exact ih h'
    | follow _ _ hsome => cases hnone.symm.trans hsome
  | follow hdot hdots hsome _ _ ihtarget ih =>
    cases h' with
    | stay heq => exact absurd heq hdot
    | up heq => exact absurd heq hdots
    | enter _ _ hnone => cases hnone.symm.trans hsome
    | follow _ _ hsome' htarget h' =>
      obtain rfl := Option.some.inj (hsome.symm.trans hsome')
      obtain ⟨rfl, rfl⟩ := ihtarget htarget
      obtain ⟨rfl, rfl⟩ := ih h'
      exact ⟨rfl, rfl⟩

/-- Leading somewhere along names and then along more names. -/
theorem exists_of_append (h : Leads tree n loc (names ++ more) loc') :
    ∃ m m' mid, Leads tree m loc names mid ∧ Leads tree m' mid more loc' := by
  induction names generalizing n loc with
  | nil => exact ⟨0, n, loc, .done loc, h⟩
  | cons name names ih =>
    cases h with
    | stay hdot h =>
      obtain ⟨m, m', mid, hfront, hmore⟩ := ih h
      exact ⟨m, m', mid, .stay hdot hfront, hmore⟩
    | up hdots h =>
      obtain ⟨m, m', mid, hfront, hmore⟩ := ih h
      exact ⟨m, m', mid, .up hdots hfront, hmore⟩
    | enter hdot hdots hnone h =>
      obtain ⟨m, m', mid, hfront, hmore⟩ := ih h
      exact ⟨m, m', mid, .enter hdot hdots hnone hfront, hmore⟩
    | follow hdot hdots hsome htarget h =>
      obtain ⟨m, m', mid, hfront, hmore⟩ := ih h
      exact ⟨_, m', mid, .follow hdot hdots hsome htarget hfront, hmore⟩

/-- The slash at the end of a link's target is nothing to be led through. -/
theorem exists_of_targetNames (h : Leads tree n loc (targetNames target) loc') :
    ∃ m, Leads tree m loc (Path.rawNames target.toList) loc' := by
  obtain ⟨m, m', mid, hnames, hslash⟩ := h.exists_of_append
  have hmid : mid = loc' := by
    split at hslash
    · cases hslash with
      | stay _ h => cases h; rfl
      | up hdots => exact absurd hdots (by decide)
      | enter hdot => exact absurd rfl hdot
      | follow hdot => exact absurd rfl hdot
    · cases hslash; rfl
  exact ⟨m, hmid ▸ hnames⟩

end Leads

/-! ## Locations without links -/

namespace Plain

theorem front {front : Location} (h : Plain tree loc) (hfront : front <+: loc) :
    Plain tree front :=
  ⟨fun name hname => h.ne_dot name (hfront.subset hname),
    fun front' hfront' => h.isLinkAt front' (hfront'.trans hfront)⟩

/-- The top has no links either, if the names start from there. -/
theorem topIf (h : Plain tree loc) (b : Bool) : Plain tree (if b then [] else loc) := by
  split
  · exact h.front List.nil_prefix
  · exact h

theorem concat (h : Plain tree loc) (hdot : name ≠ ".") (hdots : name ≠ "..")
    (hlink : tree.isLinkAt (loc ++ [name]) = none) : Plain tree (loc ++ [name]) := by
  refine ⟨fun n hn => ?_, fun front hfront => ?_⟩
  · rcases List.mem_append.mp hn with hn | hn
    · exact h.ne_dot n hn
    · exact List.mem_singleton.mp hn ▸ ⟨hdot, hdots⟩
  · rcases List.prefix_concat_iff.mp hfront with rfl | hfront
    · exact hlink
    · exact h.isLinkAt front hfront

/-- Where something stands that is no link, there are no links on the way. -/
theorem of_at? (hsound : tree.isSound = true) (h : tree.at? loc = some e)
    (hlink : e.isLink = false) : Plain tree loc := by
  refine ⟨fun name hname => ?_, ?_⟩
  · obtain ⟨-, hdot, hdots, -⟩ := isName_iff.mp ((isSound_of_at? hsound h).2 name hname)
    exact ⟨hdot, hdots⟩
  · rintro front ⟨rest, rfl⟩
    obtain ⟨d, hd, hrest⟩ := Option.bind_eq_some_iff.mp ((at?_append tree front rest).symm.trans h)
    cases d with
    | link target => cases (isLink_of_at? hrest).symm.trans hlink
    | _ => rw [Entry.isLinkAt, hd]

theorem of_stands (h : Stands tree cwd) : Plain tree cwd :=
  have ⟨_, hcs⟩ := h.directory
  of_at? h.isSound hcs rfl

end Plain

/-- **Where names lead there are no links** any more. -/
theorem Leads.plain (h : Leads tree n loc names loc') (hloc : Plain tree loc) :
    Plain tree loc' := by
  induction h with
  | done => exact hloc
  | stay _ _ ih => exact ih hloc
  | up _ _ ih => exact ih (hloc.front (List.dropLast_prefix _))
  | enter hdot hdots hnone _ ih => exact ih (hloc.concat hdot hdots hnone)
  | follow _ _ _ _ _ ihtarget ih => exact ih (ihtarget (hloc.topIf _))

/-! ## Walking -/

theorem isLinkAt_concat (h : tree.at? loc = some (directory cs)) :
    tree.isLinkAt (loc ++ [name]) =
      match cs.lookup name with
      | some (link target) => some target
      | _ => none := by
  rw [isLinkAt, at?_below h]
  cases cs.lookup name with
  | none => rfl
  | some child => cases child <;> simp only [Option.bind_some, at?_nil]

/-- **Walking goes where the names lead**, to what stands there. -/
theorem exists_leads_of_walk {budget : ℕ} {place : Place α}
    (h : tree.walk budget loc names = .ok place) :
    (∃ n, Leads tree n loc names place.location) ∧
      tree.at? place.location = some place.entry := by
  fun_induction walk tree budget loc names with
  | case1 budget loc e he =>
    obtain rfl := Except.ok.inj h
    exact ⟨⟨0, .done loc⟩, he⟩
  | case4 budget loc names cs _ ih =>
    obtain ⟨⟨n, hleads⟩, hplace⟩ := ih h
    exact ⟨⟨n, .stay rfl hleads⟩, hplace⟩
  | case5 budget loc names cs _ _ ih =>
    obtain ⟨⟨n, hleads⟩, hplace⟩ := ih h
    exact ⟨⟨n, .up rfl hleads⟩, hplace⟩
  | case9 loc name names cs hcs hdot hdots _ target hlookup budget start ih =>
    obtain ⟨⟨n, hleads⟩, hplace⟩ := ih h
    obtain ⟨m, m', mid, htarget, hnames⟩ := hleads.exists_of_append
    obtain ⟨m, htarget⟩ := htarget.exists_of_targetNames
    have hlink : tree.isLinkAt (loc ++ [name]) = some target := by
      rw [isLinkAt_concat hcs, hlookup]
    exact ⟨⟨_, .follow hdot hdots hlink htarget hnames⟩, hplace⟩
  | case10 budget loc name names cs hcs hdot hdots _ child hchild hlookup ih =>
    obtain ⟨⟨n, hleads⟩, hplace⟩ := ih h
    have hlink : tree.isLinkAt (loc ++ [name]) = none := by
      rw [isLinkAt_concat hcs, hlookup]
      cases child with
      | link target => exact absurd rfl (hchild target)
      | _ => rfl
    exact ⟨⟨n, .enter hdot hdots hlink hleads⟩, hplace⟩
  | _ => cases h

/-- **Walking goes on** from where it comes to. -/
theorem walk_append (budget : ℕ) (loc : Location) (names : List String) :
    tree.walk budget loc (names ++ more) =
      tree.walk budget loc names >>= fun place => tree.walk place.budget place.location more := by
  fun_induction walk tree budget loc names with
  | case1 budget loc e he => rfl
  | case2 budget loc hnone =>
    -- nothing stands where the names end, so nothing can be walked to from there
    exact walk_of_nothing hnone budget more
  | case3 budget loc name names hnone => exact walk_of_nothing hnone budget _
  | case4 budget loc names cs hcs ih => exact (walk_dot hcs).trans ih
  | case5 budget loc names cs hcs _ ih => exact (walk_dots hcs).trans ih
  | case6 budget loc name names cs hcs _ _ hlong => exact walk_of_tooLong hcs hlong
  | case7 budget loc name names cs hcs hdot hdots hsize hlookup =>
    exact walk_of_missing hcs hdot hdots hsize hlookup
  | case8 loc name names cs hcs hdot hdots hsize target hlookup =>
    exact walk_of_exhausted hcs hdot hdots hsize hlookup
  | case9 loc name names cs hcs hdot hdots hsize target hlookup budget start ih =>
    rw [List.cons_append, walk_follow hcs hdot hdots hsize hlookup, ← List.append_assoc]
    exact ih
  | case10 budget loc name names cs hcs hdot hdots hsize child hchild hlookup ih =>
    have hnext : child.isLink = false := by
      cases child with
      | link target => exact absurd rfl (hchild target)
      | _ => rfl
    exact (walk_enter hcs hdot hdots hsize hlookup hnext).trans ih
  | case11 budget loc name names e hother he => exact walk_of_notDirectory he hother

/-- What is opened is walked to. -/
theorem walk_of_openPath {place : Place α} (h : tree.openPath cwd p = .ok place) :
    tree.walk maxLinks (if p.isAbsolute then [] else cwd) p.names = .ok place :=
  (openPath_eq_ok_iff.mp h).2.2

/-- What is read is the content of a file of the tree. -/
theorem mem_entries_of_read {content : α} (h : tree.read cwd p = .ok content) :
    ∃ loc, (loc, file content) ∈ tree.entries := by
  rw [Entry.read] at h
  cases hopen : tree.openPath cwd p with
  | error e =>
    rw [hopen] at h
    cases h
  | ok place =>
    obtain ⟨-, hat⟩ := exists_leads_of_walk (walk_of_openPath hopen)
    obtain ⟨location, entry, budget⟩ := place
    rw [hopen] at h
    cases entry with
    | file found =>
      obtain rfl := Except.ok.inj h
      exact ⟨location, mem_entries_of_at? hat⟩
    | _ => cases h

/-- **Walking along a location without links** takes no link. -/
theorem walk_ne_tooManyLinks {budget : ℕ} (h : Plain tree (loc ++ names)) :
    tree.walk budget loc names ≠ .error .tooManyLinks := by
  fun_induction walk tree budget loc names with
  | case4 _ _ _ _ _ ih => exact absurd rfl (h.ne_dot "." (by simp)).1
  | case5 _ _ _ _ _ _ ih => exact absurd rfl (h.ne_dot ".." (by simp)).2
  | case8 loc name names cs hcs _ _ _ target hlookup =>
    have hlink := h.isLinkAt (loc ++ [name]) (by simp)
    simp [isLinkAt_concat hcs, hlookup] at hlink
  | case9 loc name names cs hcs _ _ _ target hlookup =>
    have hlink := h.isLinkAt (loc ++ [name]) (by simp)
    simp [isLinkAt_concat hcs, hlookup] at hlink
  | case10 budget loc name names cs hcs hdot hdots _ child hchild hlookup ih =>
    exact ih (by rwa [List.append_assoc])
  | _ => exact nofun

/-! ## Counting links -/

mutual
theorem countP_entries : ∀ e : Entry α, e.entries.countP (·.2.isLink) = e.links
  | file _ => rfl
  | link _ => rfl
  | directory cs => by
      rw [entries, links, List.countP_cons_of_neg (by simp [isLink]), countP_entriesOf cs]
theorem countP_entriesOf : ∀ cs : List (String × Entry α),
    (entriesOf cs).countP (·.2.isLink) = linksOf cs
  | [] => rfl
  | (_, e) :: cs => by
      rw [entriesOf, List.countP_append, List.countP_map, countP_entriesOf cs, linksOf,
        ← countP_entries e]
      rfl
end

/-- **A tree has no more locations of links than links.** -/
theorem card_le_links {s : Finset Location} (h : ∀ via ∈ s, tree.isLinkAt via ≠ none) :
    s.card ≤ tree.links := by
  have hsub : s ⊆ ((tree.entries.filter (·.2.isLink)).map (·.1)).toFinset := fun via hvia => by
    have hlink := h via hvia
    unfold isLinkAt at hlink
    split at hlink
    · next target htarget =>
      refine List.mem_toFinset.mpr (List.mem_map.mpr ⟨(via, link target), ?_, rfl⟩)
      exact List.mem_filter.mpr ⟨mem_entries_of_at? htarget, rfl⟩
    · exact absurd rfl hlink
  calc s.card ≤ _ := Finset.card_le_card hsub
    _ ≤ ((tree.entries.filter (·.2.isLink)).map (·.1)).length := List.toFinset_card_le _
    _ = tree.links := by rw [List.length_map, ← List.countP_eq_length_filter, countP_entries]

/-! ## Resolving -/

theorem LinkLeads.unique {loc'' : Location} (h : LinkLeads tree m via loc)
    (h' : LinkLeads tree n via loc'') : m = n ∧ loc = loc'' := by
  obtain ⟨target, k, htarget, rfl, hleads⟩ := h
  obtain ⟨target', k', htarget', rfl, hleads'⟩ := h'
  obtain rfl := Option.some.inj (htarget.symm.trans htarget')
  obtain ⟨rfl, rfl⟩ := hleads.unique hleads'
  exact ⟨rfl, rfl⟩

/-- **What resolving remembers**: a link that has been resolved is remembered with what it leads to,
one that is being resolved leads somewhere, and there is budget for the links not met so far. -/
structure Remembers (tree : Entry α) (known : Known) (budget : ℕ) : Prop where
  resolved : ∀ via loc, known.lookup via = some (some loc) → ∃ n, LinkLeads tree n via loc
  resolving : ∀ via, known.lookup via = some none → ∃ n loc, LinkLeads tree n via loc
  links_le : tree.links ≤ budget + (known.map (·.1)).toFinset.card

/-- **Fewer links are ahead** than any of those leads through that are being resolved. -/
def Affords (tree : Entry α) (known : Known) (n : ℕ) : Prop :=
  ∀ via m loc, known.lookup via = some none → LinkLeads tree m via loc → n < m

theorem Affords.mono {known : Known} (h : Affords tree known n) (hle : m ≤ n) :
    Affords tree known m :=
  fun via k loc hvia hleads => hle.trans_lt (h via k loc hvia hleads)

/-- There is enough for a link while its target is being resolved. -/
theorem Affords.met {known : Known} (h : Affords tree known (m + 1 + n))
    (hleads : LinkLeads tree (m + 1) via loc) : Affords tree ((via, none) :: known) m := by
  intro via' k loc' hlookup hleads'
  rw [List.lookup_cons] at hlookup
  split at hlookup
  · next heq =>
    rw [eq_of_beq heq] at hleads'
    obtain ⟨rfl, -⟩ := hleads.unique hleads'
    exact Nat.lt_succ_self m
  · exact h.mono (by omega) via' k loc' hlookup hleads'

namespace Remembers

variable {known : Known} {budget : ℕ}

theorem nil (tree : Entry α) : Remembers tree [] tree.links :=
  ⟨nofun, nofun, Nat.le_add_right _ _⟩

theorem isLinkAt_of_mem (h : Remembers tree known budget) (hmem : via ∈ known.map (·.1)) :
    tree.isLinkAt via ≠ none := by
  have hsome : known.lookup via ≠ none := fun hnone => by
    obtain ⟨entry, hentry, rfl⟩ := List.mem_map.mp hmem
    exact absurd hentry (by simpa using List.lookup_eq_none_iff.mp hnone entry)
  obtain ⟨answer, hanswer⟩ := Option.ne_none_iff_exists'.mp hsome
  have hleads : ∃ n loc, LinkLeads tree n via loc := by
    cases answer with
    | none => exact h.resolving via hanswer
    | some loc => exact (h.resolved via loc hanswer).imp fun n hn => ⟨loc, hn⟩
  obtain ⟨n, loc, target, -, htarget, -⟩ := hleads
  simp [htarget]

/-- **A link that is met anew** is paid for, and from then on it is being resolved. -/
theorem exists_met (h : Remembers tree known budget) (hnew : known.lookup via = none)
    (hleads : LinkLeads tree n via loc) :
    ∃ left, budget = left + 1 ∧ Remembers tree ((via, none) :: known) left := by
  have hvia : via ∉ (known.map (·.1)).toFinset := fun hmem => by
    obtain ⟨entry, hentry, rfl⟩ := List.mem_map.mp (List.mem_toFinset.mp hmem)
    exact absurd hentry (by simpa using List.lookup_eq_none_iff.mp hnew entry)
  have hcard : (insert via (known.map (·.1)).toFinset).card = (known.map (·.1)).toFinset.card + 1 :=
    Finset.card_insert_of_notMem hvia
  have hle : (insert via (known.map (·.1)).toFinset).card ≤ tree.links := by
    refine card_le_links (Finset.forall_mem_insert _ _ _ |>.mpr ⟨?_, fun via' hvia' => ?_⟩)
    · obtain ⟨target, -, htarget, -⟩ := hleads
      simp [htarget]
    · exact h.isLinkAt_of_mem (List.mem_toFinset.mp hvia')
  have hlinks := h.links_le
  refine ⟨budget - 1, by omega, fun via' loc' hlookup => ?_, fun via' hlookup => ?_, ?_⟩
  · rw [List.lookup_cons] at hlookup
    split at hlookup
    · cases hlookup
    · exact h.resolved via' loc' hlookup
  · rw [List.lookup_cons] at hlookup
    split at hlookup
    · next heq => exact ⟨n, loc, eq_of_beq heq ▸ hleads⟩
    · exact h.resolving via' hlookup
  · rw [List.map_cons, List.toFinset_cons, hcard]
    omega

/-- A link that was being resolved is remembered with what it leads to. -/
theorem resolved_cons (h : Remembers tree known budget) (hmem : via ∈ known.map (·.1))
    (hleads : LinkLeads tree n via loc) : Remembers tree ((via, some loc) :: known) budget := by
  refine ⟨fun via' loc' hlookup => ?_, fun via' hlookup => ?_, ?_⟩
  · rw [List.lookup_cons] at hlookup
    split at hlookup
    · next heq =>
      obtain rfl := Option.some.inj (Option.some.inj hlookup)
      exact ⟨n, eq_of_beq heq ▸ hleads⟩
    · exact h.resolved via' loc' hlookup
  · rw [List.lookup_cons] at hlookup
    split at hlookup
    · cases hlookup
    · exact h.resolving via' hlookup
  · rw [List.map_cons, List.toFinset_cons, Finset.insert_eq_of_mem (List.mem_toFinset.mpr hmem)]
    exact h.links_le

end Remembers

/-- Once a link is resolved, only those are being resolved that were before it was met. -/
theorem resolving_of_cons {known known' : Known} (loc : Location)
    (hsame : ∀ via', known'.lookup via' = some none →
      ((via, none) :: known).lookup via' = some none) :
    ∀ via', ((via, some loc) :: known').lookup via' = some none →
      known.lookup via' = some none := by
  intro via' hvia
  rw [List.lookup_cons] at hvia
  split at hvia
  · cases hvia
  · next hne =>
    have hbefore := hsame via' hvia
    rwa [List.lookup_cons, hne] at hbefore

/-- **Resolving goes where the names lead**, whatever it remembers and whatever is to follow.  What
it remembers afterwards is true again, and no other links are being resolved than before. -/
theorem Leads.resolveFrom_eq (h : Leads tree n loc names loc') {known : Known} {budget : ℕ}
    (hknown : Remembers tree known budget) (hafford : Affords tree known n)
    (steps : List Resolving) :
    ∃ known' budget', Remembers tree known' budget' ∧
      (∀ via, known'.lookup via = some none → known.lookup via = some none) ∧
      known.map (·.1) ⊆ known'.map (·.1) ∧
      tree.resolveFrom budget known loc (names.map .name ++ steps) =
        tree.resolveFrom budget' known' loc' steps := by
  induction h generalizing known budget steps with
  | done loc => exact ⟨known, budget, hknown, fun _ => id, List.Subset.refl _, rfl⟩
  | stay hdot _ ih =>
    obtain ⟨known', budget', hknown', hsame, hkeys, heq⟩ := ih hknown hafford steps
    refine ⟨known', budget', hknown', hsame, hkeys, ?_⟩
    rw [List.map_cons, List.cons_append, resolveFrom, if_pos hdot, heq]
  | up hdots _ ih =>
    obtain ⟨known', budget', hknown', hsame, hkeys, heq⟩ := ih hknown hafford steps
    refine ⟨known', budget', hknown', hsame, hkeys, ?_⟩
    rw [List.map_cons, List.cons_append, resolveFrom, if_neg (by rw [hdots]; decide),
      if_pos hdots, heq]
  | enter hdot hdots hnone _ ih =>
    obtain ⟨known', budget', hknown', hsame, hkeys, heq⟩ := ih hknown hafford steps
    refine ⟨known', budget', hknown', hsame, hkeys, ?_⟩
    rw [List.map_cons, List.cons_append, resolveFrom, if_neg hdot, if_neg hdots, hnone, heq]
  | @follow m n loc mid loc' name target names hdot hdots hsome htarget _ ihtarget ih =>
    have hlink : LinkLeads tree (m + 1) (loc ++ [name]) mid :=
      ⟨target, m, hsome, rfl, by rwa [List.dropLast_concat]⟩
    rw [List.map_cons, List.cons_append, resolveFrom, if_neg hdot, if_neg hdots, hsome]
    simp only
    cases hlookup : known.lookup (loc ++ [name]) with
    | some answer =>
      cases answer with
      | some resolved =>
        obtain ⟨k, hresolved⟩ := hknown.resolved _ _ hlookup
        obtain rfl := (hlink.unique hresolved).2
        exact ih hknown (hafford.mono (by omega)) steps
      -- a link that is being resolved is not met: the links ahead are too few for it
      | none => exact absurd (hafford _ _ _ hlookup hlink) (by omega)
    | none =>
      obtain ⟨left, rfl, hmet⟩ := hknown.exists_met hlookup hlink
      obtain ⟨known₁, budget₁, hknown₁, hsame₁, hkeys₁, heq₁⟩ :=
        ihtarget hmet (hafford.met hlink) (.endOf (loc ++ [name]) :: (names.map .name ++ steps))
      have hsame := resolving_of_cons mid hsame₁
      obtain ⟨known₂, budget₂, hknown₂, hsame₂, hkeys₂, heq₂⟩ :=
        ih (hknown₁.resolved_cons (hkeys₁ List.mem_cons_self) hlink)
          (fun via k loc hvia => hafford.mono (by omega) via k loc (hsame via hvia)) steps
      refine ⟨known₂, budget₂, hknown₂, fun via hvia => hsame via (hsame₂ via hvia), ?_, ?_⟩
      · exact fun via hvia => hkeys₂ (List.mem_cons_of_mem _ (hkeys₁ (List.mem_cons_of_mem _ hvia)))
      · refine heq₁.trans ?_
        rw [resolveFrom, heq₂]

/-- **Resolving a path goes where its names lead.** -/
theorem Leads.locate_eq (h : Leads tree n (if p.isAbsolute then [] else cwd) p.names loc) :
    tree.locate cwd p = loc := by
  obtain ⟨known, budget, -, -, -, heq⟩ := h.resolveFrom_eq (.nil tree) (fun _ _ _ => nofun) []
  rw [List.append_nil, resolveFrom] at heq
  exact heq

/-- **Resolving fails** on a null character, and where the resolved path leads through too many
links. -/
theorem resolve_cases (tree : Entry α) (cwd : Location) (p : Path) :
    (hasNull p = true ∧ tree.resolve cwd p = .error (.value .badValue)) ∨
      (hasNull p = false ∧
        tree.openPath cwd ⟨.absolute, tree.locate cwd p⟩ = .error .tooManyLinks ∧
        tree.resolve cwd p = .error .linkLoop) ∨
      (hasNull p = false ∧
        tree.openPath cwd ⟨.absolute, tree.locate cwd p⟩ ≠ .error .tooManyLinks ∧
        tree.resolve cwd p = .ok ⟨.absolute, tree.locate cwd p⟩) := by
  unfold resolve
  split
  · next hnull => exact Or.inl ⟨hnull, rfl⟩
  · next hnull =>
    simp only
    split
    · next hopen => exact Or.inr (Or.inl ⟨by simpa using hnull, hopen, rfl⟩)
    · next hopen => exact Or.inr (Or.inr ⟨by simpa using hnull, hopen, rfl⟩)

/-- **A path whose links come to an end is resolved** to where they lead. -/
theorem resolve_of_leads (hcwd : Plain tree cwd) (hnull : hasNull p = false)
    (h : Leads tree n (if p.isAbsolute then [] else cwd) p.names loc) :
    tree.resolve cwd p = .ok ⟨.absolute, loc⟩ := by
  have hloc : Plain tree loc := h.plain (hcwd.topIf _)
  have hopen : tree.openPath cwd ⟨.absolute, loc⟩ ≠ .error .tooManyLinks := by
    rcases openPath_cases tree cwd ⟨.absolute, loc⟩ with ⟨-, h⟩ | ⟨-, -, h⟩ | ⟨-, -, h⟩ <;> rw [h]
    · exact nofun
    · exact nofun
    · exact walk_ne_tooManyLinks hloc
  rw [← h.locate_eq] at hopen
  rcases resolve_cases tree cwd p with ⟨hnull', -⟩ | ⟨-, hlinks, -⟩ | ⟨-, -, hresolve⟩
  · exact absurd hnull' (by simp [hnull])
  · exact absurd hlinks hopen
  · rw [hresolve, h.locate_eq]

/-- **A path that can be opened is resolved** to the location where it is opened, and what it leads
to stands there. -/
theorem resolve_of_openPath (hcwd : Plain tree cwd) {place : Place α}
    (h : tree.openPath cwd p = .ok place) :
    tree.resolve cwd p = .ok ⟨.absolute, place.location⟩ ∧
      tree.at? place.location = some place.entry ∧ Plain tree place.location := by
  obtain ⟨hnull, -, hwalk⟩ := openPath_eq_ok_iff.mp h
  obtain ⟨⟨n, hleads⟩, hplace⟩ := exists_leads_of_walk hwalk
  exact ⟨resolve_of_leads hcwd hnull hleads, hplace, hleads.plain (hcwd.topIf _)⟩

end Entry

end ProseLinter
