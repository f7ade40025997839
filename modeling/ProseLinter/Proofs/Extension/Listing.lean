import ProseLinter.Extension.Family
import ProseLinter.Proofs.Extension.Resolve
import ProseLinter.Proofs.Outcome
import ProseLinter.Proofs.StableSort

/-!
# Proofs/Extension/Listing — the listed extensions are those that names resolve to

A name is listed if a file of the bundled directory is the name with one of two suffixes, and
resolving puts the same suffixes behind a name (`mem_namesAmong_iff`, `bundledCandidates_eq`).  So
what is listed resolves to its file, and what resolves to a bundled file is listed (`list_agrees`).
Listing differs from resolving where an entry cannot be looked at: resolving passes over it, and
listing fails (`list_tooLong`).
-/

namespace ProseLinter

/-! ## Suffixes -/

namespace Path

variable {name stem suffix : String} {cs after : List Char}

/-- A name without a dot has no suffix. -/
theorem splitSuffix_of_not_mem (h : '.' ∉ name.toList) : splitSuffix name = (name, "") := by
  have htake : (name.toList.reverse.takeWhile (· ≠ '.')).reverse = name.toList := by
    rw [List.takeWhile_eq_self_iff.mpr fun c hc =>
      decide_eq_true (ne_of_mem_of_not_mem (List.mem_reverse.mp hc) h), List.reverse_reverse]
  rw [splitSuffix]
  simp only [htake, true_or, if_true]

/-- **A name is cut at its last dot**, if there is something on both sides of it. -/
theorem splitSuffix_of_append (h : name.toList = cs ++ '.' :: after) (hdot : '.' ∉ after) :
    splitSuffix name =
      if after = [] ∨ cs = [] then (name, "")
      else (String.ofList cs, String.ofList ('.' :: after)) := by
  have htake : ((cs ++ '.' :: after).reverse.takeWhile (· ≠ '.')).reverse = after := by
    rw [List.reverse_append, List.reverse_cons, List.append_assoc, List.takeWhile_append_of_pos
      fun c hc => decide_eq_true (ne_of_mem_of_not_mem (List.mem_reverse.mp hc) hdot)]
    simp
  have hlength : (cs ++ '.' :: after).length = cs.length + 1 + after.length := by
    simp
    omega
  have hne : after.length ≠ (cs ++ '.' :: after).length := by omega
  have hcut : (cs ++ '.' :: after).length - after.length - 1 = cs.length := by omega
  rw [splitSuffix]
  simp only [h, htake, hcut, List.take_left, hne, false_or]

/-- A name with a suffix behind it is cut where the suffix begins. -/
theorem splitSuffix_append (hdot : '.' ∉ after) (hafter : after ≠ []) (hstem : stem ≠ "") :
    splitSuffix (stem ++ String.ofList ('.' :: after)) = (stem, String.ofList ('.' :: after)) := by
  have hchars : (stem ++ String.ofList ('.' :: after)).toList = stem.toList ++ '.' :: after := by
    simp
  rw [splitSuffix_of_append hchars hdot, if_neg (by simp [hafter, hstem]), String.ofList_toList]

/-- What a name is cut into is put together to the name again. -/
theorem append_of_splitSuffix (h : splitSuffix name = (stem, suffix)) (hsuffix : suffix ≠ "") :
    name = stem ++ suffix ∧ stem ≠ "" := by
  by_cases hdot : '.' ∈ name.toList
  · obtain ⟨after, cs, hreverse, hafter⟩ :=
      List.eq_append_cons_of_mem (List.mem_reverse.mpr hdot)
    have hname : name.toList = cs.reverse ++ '.' :: after.reverse := by
      simpa using congrArg List.reverse hreverse
    rw [splitSuffix_of_append hname (by simpa using hafter)] at h
    split at h
    · exact absurd (Prod.mk.inj h).2.symm hsuffix
    · next hboth =>
      obtain ⟨rfl, rfl⟩ := Prod.mk.inj h
      refine ⟨String.toList_injective (by simpa using hname), fun hempty => hboth (Or.inr ?_)⟩
      simpa using hempty
  · rw [splitSuffix_of_not_mem hdot] at h
    exact absurd (Prod.mk.inj h).2.symm hsuffix

theorem rootOf_of_not_mem (h : '/' ∉ cs) : rootOf cs = .relative := by
  unfold rootOf
  split <;> simp_all

theorem rawNames_of_not_mem (h : '/' ∉ name.toList) (hempty : name ≠ "") :
    rawNames name.toList = [name] := by
  rw [rawNames, Text.splitOn_of_not_mem h]
  simp [hempty]

/-- A text that is a name is read as the path of one name. -/
theorem ofText_of_not_mem (hslash : '/' ∉ name.toList) (hempty : name ≠ "") (hdot : name ≠ ".") :
    ofText name = ⟨.relative, [name]⟩ := by
  rw [ofText, ofChars, rootOf_of_not_mem hslash, rawNames_of_not_mem hslash hempty]
  simp [hdot]

end Path

/-! ## Walking to an entry of a directory -/

namespace Entry

variable {α : Type} {tree : Entry α} {cwd loc : Location} {names more : List String}
  {cs : List (String × Entry α)} {name : String} {p : Path} {budget : ℕ} {place : Place α}

/-- **What is opened in a directory** is one of its entries. -/
theorem mem_of_isFileAt_child (hopen : tree.openPath cwd p = .ok ⟨loc, directory cs, budget⟩)
    (hdots : name ≠ "." ∧ name ≠ "..") (hfile : tree.isFileAt cwd (p.child name) = true) :
    name ∈ cs.map (·.1) := by
  rw [isFileAt] at hfile
  cases hchild : tree.openPath cwd (p.child name) with
  | error fault => simp [hchild] at hfile
  | ok place =>
    have hwalk := walk_of_openPath hopen
    have hat : tree.at? loc = some (directory cs) := (exists_leads_of_walk hwalk).2
    have hnext := walk_of_openPath hchild
    change tree.walk maxLinks (if p.isAbsolute then [] else cwd) (p.names ++ [name]) = _ at hnext
    rw [walk_append, hwalk] at hnext
    change tree.walk budget loc [name] = _ at hnext
    cases hlookup : cs.lookup name with
    | some child => exact List.mem_map_of_mem (f := (·.1)) (mem_of_lookup hlookup)
    | none =>
      by_cases hlong : maxName < name.utf8ByteSize
      · cases hnext.symm.trans (walk_of_tooLong hat hlong)
      · cases hnext.symm.trans (walk_of_missing hat hdots.1 hdots.2 hlong hlookup)

/-- Opening goes on in a directory that has been opened. -/
theorem openPath_child (hopen : tree.openPath cwd p = .ok place)
    (hnull : hasNull (p.child name) = false) (hlong : ¬ TooLong (p.child name)) :
    tree.openPath cwd (p.child name) = tree.walk place.budget place.location [name] := by
  rw [openPath_eq_ite hnull, if_neg hlong]
  change tree.walk maxLinks (if p.isAbsolute then [] else cwd) (p.names ++ [name]) = _
  rw [walk_append, walk_of_openPath hopen]
  rfl

/-- **A link to a name that is too long** cannot be followed. -/
theorem walk_link_of_tooLong {target : String} (hat : tree.at? loc = some (directory cs))
    (hlink : cs.lookup name = some (link target)) (hname : isName name = true)
    (hslash : '/' ∉ target.toList) (hlong : maxName < target.utf8ByteSize) :
    tree.walk (budget + 1) loc [name] = .error .nameTooLong := by
  obtain ⟨-, hdot, hdots, -, -, hsize⟩ := isName_iff.mp hname
  have hne : target ≠ "" := by
    rintro rfl
    exact absurd hlong (by decide)
  have hlast : target.toList.getLast? ≠ some '/' := fun h => hslash (List.mem_of_getLast? h)
  have htarget : targetNames target = [target] := by
    rw [targetNames, Path.rawNames_of_not_mem hslash hne, if_neg hlast, List.append_nil]
  rw [walk_follow hat hdot hdots (not_lt.mpr hsize) hlink, htarget, Path.rootOf_of_not_mem hslash]
  exact walk_of_tooLong hat hlong

/-- Whether there is a file at a path is told unless a name or the path is too long. -/
theorem isFileAt?_of_ne (h : tree.openPath cwd p ≠ .error .nameTooLong) :
    tree.isFileAt? cwd p = .ok (tree.isFileAt cwd p) := by
  rw [isFileAt?, isFileAt]
  cases hopen : tree.openPath cwd p with
  | ok place => rfl
  | error fault => cases fault <;> first | rfl | exact absurd hopen h

theorem isFileAt?_of_tooLong (h : tree.openPath cwd p = .error .nameTooLong) :
    tree.isFileAt? cwd p = .error .nameTooLong := by
  rw [isFileAt?, h]

end Entry

namespace Family

variable {f : Family} {w : Workspace} {cwd : Option Path} {n file suffix : String}
  {files names : List String}

/-! ## Names -/

theorem exists_of_mem_suffixes (h : suffix ∈ suffixes) :
    ∃ after, '.' ∉ after ∧ '/' ∉ after ∧ after ≠ [] ∧ suffix = String.ofList ('.' :: after) := by
  rcases List.mem_pair.mp h with rfl | rfl
  · exact ⟨['p', 'y'], by decide, by decide, by decide, rfl⟩
  · exact ⟨['p', 'y', 'c'], by decide, by decide, by decide, rfl⟩

/-- A file has a suffix of extensions if it is something with that suffix behind it. -/
theorem splitSuffix_eq_iff (h : suffix ∈ suffixes) :
    Path.splitSuffix file = (n, suffix) ↔ n ≠ "" ∧ file = n ++ suffix := by
  obtain ⟨after, hdot, -, hafter, rfl⟩ := exists_of_mem_suffixes h
  constructor
  · intro hsplit
    exact (Path.append_of_splitSuffix hsplit (by simp)).symm
  · rintro ⟨hn, rfl⟩
    exact Path.splitSuffix_append hdot hafter hn

/-- **A name is listed** if some file is the name with a suffix, and the name is not private. -/
theorem mem_namesAmong_iff : n ∈ namesAmong files ↔
    n ≠ "" ∧ n.toList.head? ≠ some '_' ∧ ∃ suffix ∈ suffixes, n ++ suffix ∈ files := by
  have hhead : ∀ suffix : String, n ≠ "" → (n ++ suffix).toList.head? = n.toList.head? := by
    intro suffix hn
    obtain ⟨c, cs, heq⟩ := List.exists_cons_of_ne_nil (show n.toList ≠ [] by simpa using hn)
    simp [heq]
  rw [namesAmong, (List.mergeSort_perm _ _).mem_iff, List.mem_eraseDups, List.mem_filterMap]
  constructor
  · rintro ⟨file, hfile, hname⟩
    simp only at hname
    split_ifs at hname with hprivate hsuffix
    have hmem : (Path.splitSuffix file).2 ∈ suffixes := List.contains_iff_mem.mp hsuffix
    have hsplit : Path.splitSuffix file = (n, (Path.splitSuffix file).2) :=
      Prod.ext (Option.some.inj hname) rfl
    obtain ⟨hn, heq⟩ := (splitSuffix_eq_iff hmem).mp hsplit
    refine ⟨hn, ?_, _, hmem, heq ▸ hfile⟩
    rwa [← hhead _ hn, ← heq]
  · rintro ⟨hn, hprivate, suffix, hsuffix, hfile⟩
    have hsplit := (splitSuffix_eq_iff hsuffix).mpr ⟨hn, rfl⟩
    have hstem : Path.stem ⟨.relative, [n ++ suffix]⟩ = n := congrArg Prod.fst hsplit
    have hends : Path.suffix ⟨.relative, [n ++ suffix]⟩ = suffix := congrArg Prod.snd hsplit
    refine ⟨n ++ suffix, hfile, ?_⟩
    simp only [hhead suffix hn, hprivate, if_false, hstem, hends, List.contains_iff_mem.mpr hsuffix,
      if_true]

/-- **Listed names** are strictly increasing. -/
theorem pairwise_namesAmong (files : List String) : (namesAmong files).Pairwise (· < ·) := by
  have hle : ∀ a b : String, decide (¬ b < a) = true ↔ id a ≤ id b := fun a b => by
    rw [decide_eq_true_iff, not_lt, id, id]
  exact pairwise_lt_eraseDups Function.injective_id hle _

/-! ## The files of a directory -/

/-- The files of a directory are found if each of its entries can be looked at… -/
theorem filesAmong_of_ne {directory : Path} {children : List String}
    (h : ∀ name ∈ children,
      w.tree.openPath w.cwd (directory.child name) ≠ .error .nameTooLong) :
    filesAmong w directory children =
      .ok (children.filter fun name => w.isFile (directory.child name)) := by
  induction children with
  | nil => rfl
  | cons name children ih =>
    obtain ⟨hname, hchildren⟩ := List.forall_mem_cons.mp h
    rw [filesAmong, Entry.isFileAt?_of_ne hname, ih hchildren, List.filter_cons]
    rfl

/-- …and not at all if one of them cannot. -/
theorem filesAmong_of_tooLong {directory : Path} {children : List String}
    (h : ∃ name ∈ children,
      w.tree.openPath w.cwd (directory.child name) = .error .nameTooLong) :
    filesAmong w directory children = .error (.file .nameTooLong) := by
  induction children with
  | nil => simp at h
  | cons name children ih =>
    rw [filesAmong]
    by_cases hname : w.tree.openPath w.cwd (directory.child name) = .error .nameTooLong
    · rw [Entry.isFileAt?_of_tooLong hname]
    · have hchildren : ∃ name ∈ children,
          w.tree.openPath w.cwd (directory.child name) = .error .nameTooLong := by
        simpa [hname] using h
      rw [Entry.isFileAt?_of_ne hname, ih hchildren]
      rfl

/-! ## Bundled files -/

/-- The bundled files of a name are named with the two suffixes. -/
theorem bundledCandidates_eq (hslash : '/' ∉ n.toList) :
    (f.search cwd).bundledCandidates n =
      suffixes.map fun suffix => f.bundled.child (n ++ suffix) := by
  refine List.map_congr_left fun suffix hsuffix => ?_
  obtain ⟨after, -, hafterSlash, hafter, rfl⟩ := exists_of_mem_suffixes hsuffix
  have hchars : (n ++ String.ofList ('.' :: after)).toList = n.toList ++ '.' :: after := by simp
  have htext : Path.ofText (n ++ String.ofList ('.' :: after)) =
      ⟨.relative, [n ++ String.ofList ('.' :: after)]⟩ := by
    refine Path.ofText_of_not_mem ?_ (by simp) fun hdot => ?_
    · rw [hchars]
      simp [hslash, hafterSlash]
    · have hdot : n.toList ++ '.' :: after = ['.'] := hchars ▸ congrArg String.toList hdot
      simp [List.append_eq_singleton_iff, hafter] at hdot
  rw [htext]
  rfl

theorem parent_child (p : Path) (name : String) : (p.child name).parent = p := by
  rw [Path.child, Path.parent, List.dropLast_concat]

/-- **The bundled file of a name**: its source if there is one, and else its compiled form. -/
theorem bundledFile?_of_isFile (hslash : '/' ∉ n.toList) (hsuffix : suffix ∈ suffixes)
    (hfile : w.isFile (f.bundled.child (n ++ suffix)) = true) :
    w.bundledFile? (f.search cwd) n =
      some (if w.isFile (f.bundled.child (n ++ Workspace.sourceSuffix)) then
          f.bundled.child (n ++ Workspace.sourceSuffix)
        else f.bundled.child (n ++ Workspace.compiledSuffix)) := by
  have hbundled : (f.search cwd).bundled = f.bundled := rfl
  rw [Workspace.bundledFile?, bundledCandidates_eq hslash, hbundled, suffixes]
  simp only [List.map_cons, List.find?_cons, parent_child, beq_self_eq_true, Bool.true_and]
  cases hsource : w.isFile (f.bundled.child (n ++ Workspace.sourceSuffix)) with
  | true => rfl
  | false =>
    rcases List.mem_pair.mp hsuffix with rfl | rfl
    · cases hsource.symm.trans hfile
    · rw [hfile]
      rfl

/-! ## Listing and resolving -/

section

variable {loc : Location} {cs : List (String × Entry FileContent)} {budget : ℕ} {below : Path}
  {r : Resolved}

variable (hopen : w.tree.openPath w.cwd f.bundled = .ok ⟨loc, .directory cs, budget⟩)

include hopen

/-- **A name is listed** if one of its bundled files exists, and the name is not private. -/
theorem mem_listed_iff :
    n ∈ namesAmong ((cs.map (·.1)).filter fun name => w.isFile (f.bundled.child name)) ↔
      n ≠ "" ∧ n.toList.head? ≠ some '_' ∧
        ∃ suffix ∈ suffixes, w.isFile (f.bundled.child (n ++ suffix)) = true := by
  rw [mem_namesAmong_iff]
  refine and_congr_right fun hn => and_congr_right fun _ => exists_congr fun suffix =>
    and_congr_right fun hsuffix => ?_
  rw [List.mem_filter, and_iff_right_iff_imp]
  refine Entry.mem_of_isFileAt_child hopen ?_
  -- the names of dots have no suffix
  have hsplit := (splitSuffix_eq_iff hsuffix).mpr ⟨hn, rfl⟩
  have hne : suffix ≠ "" := fun hempty => absurd (hempty ▸ hsuffix) (by decide)
  constructor <;> intro hdots <;> rw [hdots] at hsplit
  · exact hne (congrArg Prod.snd hsplit).symm
  · exact hne (congrArg Prod.snd hsplit).symm

/-- What is among the entries of a directory is a name of one part. -/
theorem slash_not_mem_of_listed (hsound : w.tree.isSound = true)
    (h : n ++ suffix ∈ cs.map (·.1)) : '/' ∉ n.toList := by
  have hat := (Entry.exists_leads_of_walk (Entry.walk_of_openPath hopen)).2
  obtain ⟨hnames, -, -⟩ := Entry.isSound_directory (Entry.isSound_of_at? hsound hat).1
  obtain ⟨c, hc, hname⟩ := List.mem_map.mp h
  obtain ⟨-, -, -, hslash, -, -⟩ := Entry.isName_iff.mp (hnames c hc)
  rw [hname, String.toList_append, List.mem_append, not_or] at hslash
  exact hslash.1

theorem list_eq : f.list w = (filesAmong w f.bundled (cs.map (·.1))).map namesAmong := by
  rw [list]
  simp only [hopen]
  cases filesAmong w f.bundled (cs.map (·.1)) <;> rfl

/-- **A listed name is resolved**, to its bundled file if there is no other one. -/
theorem resolve_of_listed (hsound : w.tree.isSound = true) (cwd : Option Path)
    (h : n ∈ namesAmong ((cs.map (·.1)).filter fun name => w.isFile (f.bundled.child name)))
    (hbelow : w.tree.resolve w.cwd (w.pathBelow (f.search cwd) n) = .ok below) :
    (∃ r, w.resolve (f.search cwd) n = .ok (.found r)) ∧
      (w.isFile (.ofText n) = false → w.isFile below = false →
        w.resolve (f.search cwd) n = .ok (.found
          ⟨n, if w.isFile (f.bundled.child (n ++ Workspace.sourceSuffix)) then
              f.bundled.child (n ++ Workspace.sourceSuffix)
            else f.bundled.child (n ++ Workspace.compiledSuffix), .bundled, none⟩)) := by
  obtain ⟨hn, -, suffix, hsuffix, hfile⟩ := mem_namesAmong_iff.mp h
  obtain ⟨hmem, hfile⟩ := List.mem_filter.mp hfile
  have hslash := slash_not_mem_of_listed hopen hsound hmem
  have hresolve := Workspace.resolve_eq hn hbelow
  have hbundled : w.bundledFile? (f.search cwd) n = _ :=
    bundledFile?_of_isFile hslash hsuffix hfile
  have hcandidate : f.bundled.child (n ++ suffix) ∈ (f.search cwd).bundledCandidates n := by
    rw [bundledCandidates_eq hslash]
    exact List.mem_map_of_mem (f := fun suffix => f.bundled.child (n ++ suffix)) hsuffix
  constructor
  · have hsome : w.fileFor? (f.search cwd) n below ≠ none := fun hnone =>
      Workspace.fileFor?_eq_none_iff.mp hnone
        (Or.inr (Or.inr ⟨_, hcandidate, parent_child _ _, hfile⟩))
    obtain ⟨r, hr⟩ := Option.ne_none_iff_exists'.mp hsome
    exact ⟨r, by rw [hresolve, hr]; rfl⟩
  · intro hgiven hrelative
    rw [hresolve, Workspace.fileFor?, hgiven, hrelative, hbundled]
    rfl

/-- **A name that is resolved to a bundled file is listed.** -/
theorem listed_of_resolve (hn : n ≠ "") (hslash : '/' ∉ n.toList)
    (hprivate : n.toList.head? ≠ some '_') (h : w.resolve (f.search cwd) n = .ok (.found r))
    (hstrategy : r.strategy = .bundled) :
    n ∈ namesAmong ((cs.map (·.1)).filter fun name => w.isFile (f.bundled.child name)) := by
  obtain ⟨below, hbelow⟩ := Workspace.exists_below_of_resolve h hn (by rw [hstrategy]; decide)
  have hfile := Workspace.fileFor?_of_resolve hn hbelow h (by rw [hstrategy]; decide)
  obtain ⟨-, hexists, hcases⟩ := Workspace.fileFor?_cases hfile
  simp only [hstrategy, reduceCtorEq, false_and, false_or, true_and] at hcases
  obtain ⟨hpath, -⟩ := hcases
  rw [bundledCandidates_eq hslash] at hpath
  obtain ⟨suffix, hsuffix, hpath⟩ := List.mem_map.mp hpath
  exact (mem_listed_iff hopen).mpr ⟨hn, hprivate, suffix, hsuffix, hpath ▸ hexists⟩

/-- **Listing and resolving agree.**  If some entry of the bundled directory cannot be looked at,
since a name or a path is too long, the listing fails.  If not, it is strictly increasing; a listed
name whose path below the working directory can be resolved is resolved, and if there is no file at
either of its paths, it is resolved to its bundled file, in source form if there is one; and
conversely, a name of one part that is not private and is resolved to a bundled file is listed. -/
theorem list_agrees (hsound : w.tree.isSound = true) (cwd : Option Path) :
    ((∃ name ∈ cs.map (·.1),
        w.tree.openPath w.cwd (f.bundled.child name) = .error .nameTooLong) →
      f.list w = .error (.file .nameTooLong)) ∧
    ((∀ name ∈ cs.map (·.1),
        w.tree.openPath w.cwd (f.bundled.child name) ≠ .error .nameTooLong) →
      ∃ names, f.list w = .ok names ∧ names.Pairwise (· < ·) ∧
        (∀ n ∈ names, ∀ below,
          w.tree.resolve w.cwd (w.pathBelow (f.search cwd) n) = .ok below →
          (∃ r, w.resolve (f.search cwd) n = .ok (.found r)) ∧
          (w.isFile (.ofText n) = false → w.isFile below = false →
            w.resolve (f.search cwd) n = .ok (.found
              ⟨n, if w.isFile (f.bundled.child (n ++ ".py")) then f.bundled.child (n ++ ".py")
                else f.bundled.child (n ++ ".pyc"), .bundled, none⟩))) ∧
        ∀ n r, n ≠ "" → '/' ∉ n.toList → n.toList.head? ≠ some '_' →
          w.resolve (f.search cwd) n = .ok (.found r) → r.strategy = .bundled → n ∈ names) := by
  refine ⟨fun hlong => ?_, fun hfits => ?_⟩
  · rw [list_eq hopen, filesAmong_of_tooLong hlong]
    rfl
  · refine ⟨_, (list_eq hopen).trans (congrArg _ (filesAmong_of_ne hfits)),
      pairwise_namesAmong _, ?_, ?_⟩
    · exact fun n h below hbelow => resolve_of_listed hopen hsound cwd h hbelow
    · exact fun n r hn hslash hprivate h hstrategy =>
        listed_of_resolve hopen hn hslash hprivate h hstrategy

end

/-- The family of the extensions in the directory of the shelf. -/
def shelfFamily : Family := ⟨⟨.absolute, ["b"]⟩, "p-", formatterMember⟩

/-- The bundled extension of the shelf is listed, since it is resolved. -/
theorem list_agrees_shelf :
    ∃ names, shelfFamily.list Workspace.shelf = .ok names ∧
      names.Pairwise (· < ·) ∧ "t" ∈ names := by
  have hresolve : Workspace.shelf.resolve (shelfFamily.search none) "t" =
      .ok (.found ⟨"t", ⟨.absolute, ["b", "t.py"]⟩, .bundled, none⟩) := by cbv
  have hopen : Workspace.shelf.tree.openPath Workspace.shelf.cwd shelfFamily.bundled =
      .ok ⟨["b"], .directory [("t.py", .file (.bytes []))], Entry.maxLinks⟩ :=
    (Entry.openPath_location (by decide) rfl rfl _).trans (if_neg (by decide))
  have hfile : Workspace.shelf.tree.openPath Workspace.shelf.cwd
      (shelfFamily.bundled.child "t.py") = .ok ⟨["b", "t.py"], .file (.bytes []), Entry.maxLinks⟩ :=
    (Entry.openPath_location (by decide) rfl rfl _).trans (if_neg (by decide))
  obtain ⟨names, hlist, hsorted, -, hlisted⟩ := (list_agrees hopen (by decide) none).2
    (List.forall_mem_singleton.mpr (by rw [hfile]; simp))
  exact ⟨names, hlist, hsorted, hlisted "t" _ (by decide) (by decide) (by decide) hresolve rfl⟩

/-- A directory with an extension, and a link that is named like one. -/
def linking (target : String) : Workspace :=
  { Workspace.shelf with tree := .directory [("b", .directory
      [("t.py", .file (.bytes [])), ("x.py", .link target)])] }

/-- **Listing fails where resolving goes on**: on a link to a name that is too long. -/
theorem list_linking {target : String} (hslash : '/' ∉ target.toList)
    (hlong : Entry.maxName < target.utf8ByteSize) :
    shelfFamily.list (linking target) = .error (.file .nameTooLong) ∧
      (linking target).isFile (shelfFamily.bundled.child "x.py") = false := by
  have hname : Entry.isName "x.py" = true := by decide
  have hsound : (linking target).tree.isSound = true := by
    have hb : Entry.isName "b" = true := by decide
    have ht : Entry.isName "t.py" = true := by decide
    simp [linking, Entry.isSound, Entry.areSound, hb, ht, hname]
  have hopen : (linking target).tree.openPath (linking target).cwd shelfFamily.bundled =
      .ok ⟨["b"], .directory [("t.py", .file (.bytes [])), ("x.py", .link target)],
        Entry.maxLinks⟩ :=
    (Entry.openPath_location hsound rfl rfl _).trans (if_neg (by decide))
  have hat : (linking target).tree.at? ["b"] =
      some (.directory [("t.py", .file (.bytes [])), ("x.py", .link target)]) := rfl
  have hwalk : (linking target).tree.walk Entry.maxLinks ["b"] ["x.py"] = .error .nameTooLong :=
    Entry.walk_link_of_tooLong hat rfl hname hslash hlong
  have hlink : (linking target).tree.openPath (linking target).cwd
      (shelfFamily.bundled.child "x.py") = .error .nameTooLong :=
    (Entry.openPath_child hopen (by decide) (by decide)).trans hwalk
  refine ⟨?_, ?_⟩
  · rw [list_eq hopen, filesAmong_of_tooLong ⟨"x.py", by simp, hlink⟩]
    rfl
  · rw [Workspace.isFile, Entry.isFileAt, hlink]

/-- A name of three hundred bytes is too long. -/
theorem list_tooLong :
    shelfFamily.list (linking (String.ofList (List.replicate 300 'a'))) =
        .error (.file .nameTooLong) ∧
      (linking (String.ofList (List.replicate 300 'a'))).isFile
        (shelfFamily.bundled.child "x.py") = false := by
  have hsize : ∀ n, String.utf8Len (List.replicate n 'a') = n := by
    intro n
    induction n with
    | zero => rfl
    | succ n ih =>
      rw [List.replicate_succ, String.utf8Len_cons, ih]
      rfl
  refine list_linking ?_ ?_
  · rw [String.toList_ofList]
    exact fun h => absurd (List.eq_of_mem_replicate h) (by decide)
  · rw [String.utf8ByteSize_ofList, hsize]
    decide

end Family

end ProseLinter
