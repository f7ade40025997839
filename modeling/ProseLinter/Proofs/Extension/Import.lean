import ProseLinter.Proofs.Extension.Load
import ProseLinter.Proofs.Extension.Names

/-!
# Proofs/Extension/Import — what an import does

A module is made where its file is found: `Workspace.made` tells the bodies that run for it, at most
one, and the module or the cause of the failure.  Importing one more part of a dotted name makes a
module unless it is imported already (`Workspace.importPart_eq`).  Two theorems follow for a whole
dotted name:

* `Workspace.importUp_follows` — it runs the bodies of modules that it **needs**, those after the
  last one that is imported, in their order and each at most once; whose body came to its end is
  imported afterwards.
* `Workspace.exists_executed_of_mem_needed` — it begins as the import of any module that it needs.
-/

namespace ProseLinter

namespace Workspace

variable {w v : Workspace} {above up : List String} {part name : String} {path : Path}

/-! ## What finding depends on -/

theorem surroundings_eq_iff : v.surroundings = w.surroundings ↔
    v.tree = w.tree ∧ v.cwd = w.cwd ∧ v.importPath = w.importPath := by
  simp [surroundings]

theorem findIn_congr (h : v.surroundings = w.surroundings) (directories : List Path)
    (name : String) : v.findIn directories name = w.findIn directories name := by
  obtain ⟨htree, hcwd, -⟩ := surroundings_eq_iff.mp h
  have hfile : v.isFile = w.isFile := by
    funext p
    rw [isFile, isFile, htree, hcwd]
  have hdirectory : v.isDirectory = w.isDirectory := by
    funext p
    rw [isDirectory, isDirectory, htree, hcwd]
  simp only [findIn, offer?, hfile, hdirectory]

theorem programAt_congr (h : v.surroundings = w.surroundings) (path : Path)
    (moduleName : String) : v.programAt path moduleName = w.programAt path moduleName := by
  obtain ⟨htree, hcwd, -⟩ := surroundings_eq_iff.mp h
  rw [programAt, programAt, htree, hcwd]

end Workspace

/-! ## Modules and where they are -/

/-- **The shape of an imported module**: where its file and its submodules are. -/
def ImportedModule.shape (m : ImportedModule) : Option Path × Option (List Path) :=
  (m.origin, m.locations)

namespace Workspace

variable {w v : Workspace} {above up : List String} {part name : String} {path : Path}

/-- Whether a module is imported. -/
def isImported (w : Workspace) (name : String) : Bool := (w.modules.lookup name).isSome

/-- The shape of a module, if it is imported. -/
def shape? (w : Workspace) (name : String) : Option (Option Path × Option (List Path)) :=
  (w.modules.lookup name).map ImportedModule.shape

theorem isImported_iff :
    w.isImported name = true ↔ ∃ m, w.modules.lookup name = some m := Option.isSome_iff_exists

theorem isImported_eq_false_iff :
    w.isImported name = false ↔ w.modules.lookup name = none := by
  rw [isImported, Option.isSome_eq_false_iff, Option.isNone_iff_eq_none]

theorem isImported_eq_isSome_shape? : w.isImported name = (w.shape? name).isSome := by
  rw [shape?, Option.isSome_map, isImported]

theorem isImported_congr (h : v.shape? name = w.shape? name) :
    v.isImported name = w.isImported name := by
  rw [isImported_eq_isSome_shape?, h, ← isImported_eq_isSome_shape?]

/-- Where a part of a dotted name is found whose parent is imported. -/
def located? (w : Workspace) (part : String) (above : List String) : Option Found :=
  (w.searchPath above.reverse).bind fun directories => w.findIn directories part

theorem locationsOf_congr (h : v.surroundings = w.surroundings) {m m' : ImportedModule}
    (hshape : m'.shape = m.shape) : v.locationsOf name m' = w.locationsOf name m := by
  obtain ⟨horigin, hlocations⟩ := Prod.mk.inj hshape
  obtain ⟨-, -, hpath⟩ := surroundings_eq_iff.mp h
  rw [locationsOf, locationsOf, horigin, hlocations, hpath]
  simp only [findIn_congr h]

theorem findBelow_congr (h : v.surroundings = w.surroundings) :
    ∀ (found : Option Found) (names : List String),
      v.findBelow found names = w.findBelow found names
  | found, [] => by rw [findBelow, findBelow]
  | none, name :: rest => rfl
  | some found, name :: rest => by
      rw [findBelow, findBelow]
      cases found.locations with
      | none => rfl
      | some directories => simp only [findIn_congr h, findBelow_congr h]

/-- **What a name is resolved to** depends on the surroundings and on the modules that are known. -/
theorem resolve_congr (h : v.surroundings = w.surroundings) (hmodules : v.modules = w.modules)
    (s : Search) (name : String) : v.resolve s name = w.resolve s name := by
  obtain ⟨htree, hcwd, hpath⟩ := surroundings_eq_iff.mp h
  have hfile : v.isFile = w.isFile := by
    funext p
    rw [isFile, isFile, htree, hcwd]
  have htop : v.findTop = w.findTop := by
    funext top
    rw [findTop, findTop, hmodules, hpath, findIn_congr h]
    cases w.modules.lookup top with
    | none => rfl
    | some m => simp only [locationsOf_congr h rfl]
  have hfind : v.find = w.find := by
    funext m
    simp only [find, htop, findBelow_congr h]
  simp only [resolve, htree, hcwd, hfile, bundledFile?, moduleFile?, hfind, cwdPath]

/-- **Where a part is found** depends on the surroundings and on the shape of the parent. -/
theorem located?_congr (h : v.surroundings = w.surroundings)
    (hparent : above ≠ [] → v.shape? (nameUp above) = w.shape? (nameUp above)) :
    v.located? part above = w.located? part above := by
  have hsearch : v.searchPath above.reverse = w.searchPath above.reverse := by
    cases hrev : above.reverse with
    | nil => exact congrArg some (surroundings_eq_iff.mp h).2.2
    | cons top rest =>
      have habove : above ≠ [] := by
        rintro rfl
        cases hrev
      have hshape := hparent habove
      rw [nameUp, hrev] at hshape
      simp only [searchPath]
      cases hw : w.modules.lookup (dotted (top :: rest)) with
      | none =>
        rw [shape?, shape?, hw, Option.map_none, Option.map_eq_none_iff] at hshape
        rw [hshape]
      | some m =>
        rw [shape?, shape?, hw, Option.map_some] at hshape
        obtain ⟨m', hm', heq⟩ := Option.map_eq_some_iff.mp hshape
        rw [hm']
        simp only [locationsOf_congr h heq, (Prod.mk.inj heq).2]
  simp only [located?, hsearch, findIn_congr h]

/-! ## Making a module -/

/-- The workspace after bodies have run. -/
def ran (w : Workspace) (xs : List Execution) : Workspace :=
  { w with executed := w.executed ++ xs }

/-- **What running the file at a path comes to**: the bodies that run, which is its own if it
compiles, and what it exports. -/
def bodyAt (w : Workspace) (path : Path) (moduleName : String) :
    List Execution × Except LoadCause (List (String × Export)) :=
  match w.programAt path moduleName with
  | .error cause => ([], .error cause)
  | .ok p =>
    ([⟨moduleName, path, p.label, p.raises.isNone⟩],
      match p.raises with
      | some exception => .error (.raised exception)
      | none => .ok p.exports)

theorem runFile_eq (w : Workspace) (path : Path) (moduleName : String) :
    w.runFile path moduleName =
      (w.ran (w.bodyAt path moduleName).1, (w.bodyAt path moduleName).2) := by
  rw [runFile, bodyAt]
  cases w.programAt path moduleName with
  | error cause => simp [ran]
  | ok p => rfl

theorem bodyAt_congr (h : v.surroundings = w.surroundings) (path : Path) (moduleName : String) :
    v.bodyAt path moduleName = w.bodyAt path moduleName := by
  rw [bodyAt, bodyAt, programAt_congr h]

/-- At most one body runs, and it comes to its end exactly if there are exports. -/
theorem bodyAt_cases (w : Workspace) (path : Path) (moduleName : String) :
    (∃ cause, w.bodyAt path moduleName = ([], .error cause)) ∨
      ∃ x, (w.bodyAt path moduleName).1 = [x] ∧ x.moduleName = moduleName ∧ x.path = path ∧
        (x.completed = true ↔ ∃ exports, (w.bodyAt path moduleName).2 = .ok exports) := by
  rw [bodyAt]
  cases w.programAt path moduleName with
  | error cause => exact Or.inl ⟨cause, rfl⟩
  | ok p =>
    refine Or.inr ⟨_, rfl, rfl, rfl, ?_⟩
    cases hraises : p.raises <;> simp [hraises]

/-- **What a module is made of** where it is found: the bodies that run for it, and the module. -/
def made (w : Workspace) (name : String) :
    Option Found → List Execution × Except LoadCause ImportedModule
  | none => ([], .error (.missingModule name))
  | some ⟨none, locations⟩ => ([], .ok ⟨none, locations, []⟩)
  | some ⟨some origin, locations⟩ =>
    ((w.bodyAt origin name).1,
      (w.bodyAt origin name).2.map fun exports => ⟨some origin, locations, exports⟩)

theorem made_congr (h : v.surroundings = w.surroundings) (name : String) (found : Option Found) :
    v.made name found = w.made name found := by
  rcases found with _ | ⟨_ | origin, locations⟩
  · rfl
  · rfl
  · simp only [made, bodyAt_congr h]

/-- For a module at most its own body runs, and it comes to its end exactly if there is a module. -/
theorem made_cases (w : Workspace) (name : String) (found : Option Found) :
    (w.made name found).1 = [] ∨
      ∃ x, (w.made name found).1 = [x] ∧ x.moduleName = name ∧
        (x.completed = true ↔ ∃ m, (w.made name found).2 = .ok m) := by
  rcases found with _ | ⟨_ | origin, locations⟩
  · exact Or.inl rfl
  · exact Or.inl rfl
  · rcases bodyAt_cases w origin name with ⟨cause, hbody⟩ | ⟨x, hx, hname, -, hcompleted⟩
    · exact Or.inl (congrArg Prod.fst hbody)
    · refine Or.inr ⟨x, hx, hname, hcompleted.trans ?_⟩
      simp only [made]
      cases (w.bodyAt origin name).2 with
      | error cause => simp [Except.map]
      | ok exports => simp [Except.map]

/-! ## Adding a module -/

/-- The name of a part under its parent. -/
theorem dotted_concat (above : List String) (part : String) :
    dotted (above.reverse ++ [part]) = nameUp (part :: above) := by
  rw [nameUp, List.reverse_cons]

/-- A parent has another name. -/
theorem nameUp_ne_above (h : AreParts (part :: above)) (hne : above ≠ []) :
    nameUp above ≠ nameUp (part :: above) := fun heq => by
  have hparts := nameUp_inj hne (List.cons_ne_nil part above) (areParts_cons.mp h).2 h heq
  exact List.cons_ne_self part above hparts.symm

/-- The module that is added is known by its name… -/
theorem lookup_addModule_self (h : AreParts (part :: above)) (w : Workspace) (m : ImportedModule) :
    (w.addModule above.reverse part m).modules.lookup (nameUp (part :: above)) = some m := by
  have hself := lookup_insertEntry_self (nameUp (part :: above)) m w.modules
  rw [addModule, dotted_concat]
  simp only
  split
  · split
    · exact hself
    · next hne =>
      have hname : nameUp (part :: above) ≠ dotted above.reverse :=
        (nameUp_ne_above h (mt List.reverse_eq_nil_iff.mpr hne)).symm
      rw [lookup_insertEntry_of_ne hname]
      exact hself
  · exact hself

/-- …and of the others only its parent changes, which has it as an attribute. -/
theorem lookup_addModule_of_ne (hname : name ≠ nameUp (part :: above)) (w : Workspace)
    (m : ImportedModule) :
    (w.addModule above.reverse part m).modules.lookup name =
      (w.modules.lookup name).map fun p =>
        if above ≠ [] ∧ name = nameUp above then
          { p with
            exports := insertEntry part (.module (nameUp (part :: above)) m.exports) p.exports }
        else p := by
  have hother : ∀ n, n ≠ nameUp (part :: above) →
      (insertEntry (nameUp (part :: above)) m w.modules).lookup n = w.modules.lookup n :=
    fun n hn => lookup_insertEntry_of_ne hn m w.modules
  rw [addModule, dotted_concat, show dotted above.reverse = nameUp above from rfl]
  simp only [List.reverse_eq_nil_iff]
  by_cases habove : above = []
  · simp only [habove, ne_eq, not_true_eq_false, false_and, if_false, Option.map_id_fun', id]
    rw [← habove]
    split <;> exact hother name hname
  by_cases hparent : name = nameUp above
  · subst hparent
    rw [hother _ hname]
    cases hlookup : w.modules.lookup (nameUp above) with
    | none => simp only [hother _ hname, hlookup, Option.map_none]
    | some p =>
      simp only [habove, if_false, lookup_insertEntry_self, Option.map_some, ne_eq,
        not_false_eq_true, and_self, if_true]
  · simp only [habove, hparent, and_false, if_false, Option.map_id_fun', id]
    split
    · rw [lookup_insertEntry_of_ne hparent]
      exact hother name hname
    · exact hother name hname

theorem shape?_addModule_self (h : AreParts (part :: above)) (w : Workspace) (m : ImportedModule) :
    (w.addModule above.reverse part m).shape? (nameUp (part :: above)) = some m.shape := by
  rw [shape?, lookup_addModule_self h, Option.map_some]

/-- No other module changes its shape. -/
theorem shape?_addModule_of_ne (hname : name ≠ nameUp (part :: above)) (w : Workspace)
    (m : ImportedModule) :
    (w.addModule above.reverse part m).shape? name = w.shape? name := by
  rw [shape?, lookup_addModule_of_ne hname, Option.map_map, shape?]
  refine congrArg (fun f => Option.map f (w.modules.lookup name)) (funext fun p => ?_)
  rw [Function.comp_apply]
  split <;> rfl

@[simp] theorem executed_addModule (w : Workspace) (parent : List String) (part : String)
    (m : ImportedModule) : (w.addModule parent part m).executed = w.executed := rfl

/-! ## One part -/

/-- What the import of a part under its parent makes. -/
def madeBelow (w : Workspace) (part : String) (above : List String) :
    List Execution × Except LoadCause ImportedModule :=
  w.made (nameUp (part :: above)) (w.located? part above)

/-- **Importing one more part** makes a module, if it is not imported yet, and adds it. -/
theorem importPart_eq (h : w.isImported (nameUp (part :: above)) = false) :
    w.importPart above.reverse part =
      match w.madeBelow part above with
      | (xs, .error cause) => (w.ran xs, .error cause)
      | (xs, .ok m) => ((w.ran xs).addModule above.reverse part m, .ok ()) := by
  have hnil : w.ran [] = w := by simp [ran]
  rw [importPart, dotted_concat, isImported_eq_false_iff.mp h, madeBelow, located?]
  simp only
  cases (w.searchPath above.reverse).bind fun directories => w.findIn directories part with
  | none => simp only [made, hnil]
  | some found =>
    obtain ⟨origin | origin, locations⟩ := found
    · simp only [made, hnil]
    · simp only [made, runFile_eq]
      cases (w.bodyAt origin (nameUp (part :: above))).2 <;> rfl

/-- What has run stays recorded. -/
theorem executed_importPart (w : Workspace) (part : String) (above : List String) :
    ∃ more, (w.importPart above.reverse part).1.executed = w.executed ++ more := by
  cases hknown : w.isImported (nameUp (part :: above)) with
  | true =>
    obtain ⟨m, hm⟩ := isImported_iff.mp hknown
    rw [importPart, dotted_concat, hm]
    exact ⟨[], (List.append_nil _).symm⟩
  | false =>
    rw [importPart_eq hknown]
    rcases w.madeBelow part above with ⟨xs, cause | m⟩ <;> exact ⟨xs, rfl⟩

theorem madeBelow_congr (h : v.surroundings = w.surroundings)
    (hparent : above ≠ [] → v.shape? (nameUp above) = w.shape? (nameUp above)) :
    v.madeBelow part above = w.madeBelow part above := by
  rw [madeBelow, madeBelow, located?_congr h hparent, made_congr h]

/-- Importing is importing the parent, and then one more part. -/
theorem importUp_cons (h : w.isImported (nameUp (part :: above)) = false) :
    w.importUp (part :: above) =
      match w.importUp above with
      | (v, .ok ()) => v.importPart above.reverse part
      | (v, .error cause) => (v, .error cause) := by
  have hnew := isImported_eq_false_iff.mp h
  rw [nameUp] at hnew
  rw [importUp]
  rcases w.importUp above with ⟨v, cause | ⟨⟩⟩ <;> simp only [hnew]

theorem importUp_cons_of_error (h : w.isImported (nameUp (part :: above)) = false)
    {cause : LoadCause} (herror : (w.importUp above).2 = .error cause) :
    w.importUp (part :: above) = w.importUp above := by
  rw [importUp_cons h]
  rcases hrun : w.importUp above with ⟨v, result⟩
  obtain rfl : result = .error cause := by rw [← herror, hrun]
  rfl

/-- What is imported is not imported again. -/
theorem importUp_of_isImported (h : w.isImported (nameUp (part :: above)) = true) :
    w.importUp (part :: above) = (w, .ok ()) := by
  obtain ⟨m, hm⟩ := isImported_iff.mp h
  rw [nameUp] at hm
  rw [importUp, hm]

/-! ## A whole name -/

/-- **The modules that an import needs**: those on the way that come after the last one which is
imported. -/
def neededUp (w : Workspace) : List String → List String
  | [] => []
  | part :: above =>
    if w.isImported (nameUp (part :: above)) then []
    else w.neededUp above ++ [nameUp (part :: above)]

/-- The modules that the import of a module needs; without a name, or with a relative one, there is
nothing to import. -/
def needed (w : Workspace) (name : String) : List String :=
  match name.toList with
  | [] => []
  | '.' :: _ => []
  | _ => w.neededUp (dottedParts name).reverse

theorem neededUp_subset : ∀ {up : List String}, w.neededUp up ⊆ lineageUp up
  | [] => List.Subset.refl _
  | part :: above => by
      intro n hn
      rw [neededUp] at hn
      split at hn
      · cases hn
      · rcases List.mem_append.mp hn with hn | hn
        · exact List.mem_append_left _ (neededUp_subset hn)
        · exact List.mem_append_right _ hn

/-- What is needed is not imported. -/
theorem isImported_of_mem_neededUp : ∀ {up : List String}, name ∈ w.neededUp up →
    w.isImported name = false
  | part :: above, h => by
      rw [neededUp] at h
      split at h
      · cases h
      · next hnew =>
        rcases List.mem_append.mp h with h | h
        · exact isImported_of_mem_neededUp h
        · exact List.mem_singleton.mp h ▸ Bool.eq_false_iff.mpr hnew

/-- **Importing a module is importing its parts**, unless its name is none to import: then nothing is
needed, and nothing done. -/
theorem importModule_cases (name : String) :
    (∀ w : Workspace, w.needed name = [] ∧ (w.importModule name).1 = w) ∨
      ∀ w : Workspace, w.needed name = w.neededUp (dottedParts name).reverse ∧
        (w.importModule name).1 = (w.importUp (dottedParts name).reverse).1 := by
  cases hname : name.toList with
  | nil => exact Or.inl fun w => by simp only [needed, importModule, hname, and_self]
  | cons c cs =>
    by_cases hdot : c = '.'
    · exact Or.inl fun w => by simp only [needed, importModule, hname, hdot, and_self]
    · refine Or.inr fun w => ⟨?_, ?_⟩
      · rw [needed, hname]
        split
        · next h => cases h
        · next h => exact absurd (List.cons.inj h).1 hdot
        · rfl
      · rw [importModule, hname]
        split
        · next h => cases h
        · next h => exact absurd (List.cons.inj h).1 hdot
        · rcases w.importUp (dottedParts name).reverse with ⟨v, cause | ⟨⟩⟩
          · rfl
          · simp only
            split <;> rfl

theorem needed_subset : w.needed name ⊆ lineage name := by
  rcases importModule_cases name with h | h <;> rw [(h w).1]
  · exact List.nil_subset _
  · exact neededUp_subset

theorem isImported_of_mem_needed {n : String} (h : n ∈ w.needed name) :
    w.isImported n = false := by
  rcases importModule_cases name with hcases | hcases <;> rw [(hcases w).1] at h
  · cases h
  · exact isImported_of_mem_neededUp h

/-- No module is needed twice. -/
theorem nodup_neededUp : ∀ {up : List String}, AreParts up → (w.neededUp up).Nodup
  | [], _ => List.nodup_nil
  | part :: above, h => by
      rw [neededUp]
      split
      · exact List.nodup_nil
      · refine List.nodup_append'.mpr ⟨nodup_neededUp (areParts_cons.mp h).2,
          List.nodup_singleton _, fun n hn hlast => ?_⟩
        exact nameUp_not_mem_lineageUp h (List.mem_singleton.mp hlast ▸ neededUp_subset hn)

theorem nodup_needed (w : Workspace) (name : String) : (w.needed name).Nodup := by
  rcases importModule_cases name with h | h <;> rw [(h w).1]
  · exact List.nodup_nil
  · exact nodup_neededUp (areParts_up name)

/-- **One workspace follows another one** through imports: it has the same surroundings, the modules
that were imported have kept their shapes, those that came in are among the given ones, and so are
those whose bodies have run, in the same order.  Exactly the modules whose bodies came to their ends
are imported. -/
structure Follows (w v : Workspace) (names : List String) (new : List Execution) : Prop where
  surroundings : v.surroundings = w.surroundings
  executed : v.executed = w.executed ++ new
  kept : ∀ n, w.isImported n = true → v.shape? n = w.shape? n
  added : ∀ n, v.isImported n = true → w.isImported n = true ∨ n ∈ names
  order : (new.map (·.moduleName)).Sublist names
  ended : ∀ x ∈ new, (x.completed = true ↔ v.isImported x.moduleName = true)

theorem Follows.refl (w : Workspace) : Follows w w [] [] where
  surroundings := rfl
  executed := (List.append_nil _).symm
  kept _ _ := rfl
  added _ h := Or.inl h
  order := List.Sublist.refl _
  ended _ h := absurd h List.not_mem_nil

theorem Follows.isImported {u : Workspace} {names : List String} {new : List Execution}
    (h : Follows w u names new) (hname : w.isImported name = true) : u.isImported name = true := by
  rw [isImported_congr (h.kept name hname), hname]

/-- Of those that were not needed, the same ones are imported. -/
theorem Follows.isImported_eq {u : Workspace} {names : List String} {new : List Execution}
    (h : Follows w u names new) (hname : name ∉ names) : u.isImported name = w.isImported name :=
  Bool.eq_iff_iff.mpr ⟨fun hu => (h.added name hu).resolve_right hname, h.isImported⟩

/-- Imports one after the other, of different modules. -/
theorem Follows.trans {u : Workspace} {names names' : List String} {new new' : List Execution}
    (h : Follows w u names new) (h' : Follows u v names' new')
    (hdisjoint : ∀ n ∈ names, n ∉ names') :
    Follows w v (names ++ names') (new ++ new') where
  surroundings := h'.surroundings.trans h.surroundings
  executed := by rw [h'.executed, h.executed, List.append_assoc]
  kept n hn := (h'.kept n (h.isImported hn)).trans (h.kept n hn)
  added n hn := by
    rcases h'.added n hn with hu | hn'
    · exact (h.added n hu).imp_right (List.mem_append_left names')
    · exact Or.inr (List.mem_append_right names hn')
  order := by
    rw [List.map_append]
    exact h.order.append h'.order
  ended x hx := by
    rcases List.mem_append.mp hx with hx | hx
    · have hold := hdisjoint _ (h.order.mem (List.mem_map_of_mem hx))
      rw [h.ended x hx, h'.isImported_eq hold]
    · exact h'.ended x hx

/-- One more part: the module comes in exactly if it is made. -/
theorem importPart_follows (h : AreParts (part :: above))
    (hnew : w.isImported (nameUp (part :: above)) = false) :
    Follows w (w.importPart above.reverse part).1 [nameUp (part :: above)]
      (w.madeBelow part above).1 := by
  have hcases := made_cases w (nameUp (part :: above)) (w.located? part above)
  rw [← madeBelow] at hcases
  have horder : ((w.madeBelow part above).1.map (·.moduleName)).Sublist
      [nameUp (part :: above)] := by
    rcases hcases with hnil | ⟨x, hx, hname, -⟩
    · rw [hnil]
      exact List.nil_sublist _
    · rw [hx, List.map_singleton, hname]
  have hended : ∀ x ∈ (w.madeBelow part above).1, x.moduleName = nameUp (part :: above) ∧
      (x.completed = true ↔ ∃ m, (w.madeBelow part above).2 = .ok m) := fun x hmem => by
    rcases hcases with hnil | ⟨y, hy, hname, hcompleted⟩
    · rw [hnil] at hmem
      cases hmem
    · rw [hy, List.mem_singleton] at hmem
      exact hmem ▸ ⟨hname, hcompleted⟩
  rw [importPart_eq hnew]
  rcases hmade : w.madeBelow part above with ⟨xs, cause | m⟩ <;> rw [hmade] at horder hended
  · refine ⟨rfl, rfl, fun _ _ => rfl, fun n hn => Or.inl hn, horder, fun x hx => ?_⟩
    obtain ⟨hname, hcompleted⟩ := hended x hx
    rw [hcompleted, hname]
    refine ⟨fun ⟨m, hm⟩ => (nomatch hm), fun himported => ?_⟩
    exact absurd (himported.symm.trans hnew) (by decide)
  · have hself := shape?_addModule_self h (w.ran xs) m
    refine ⟨rfl, rfl, fun n hn => ?_, fun n hn => ?_, horder, fun x hx => ?_⟩
    · refine shape?_addModule_of_ne (fun heq => ?_) (w.ran xs) m
      rw [heq, hnew] at hn
      cases hn
    · by_cases hname : n = nameUp (part :: above)
      · exact Or.inr (List.mem_singleton.mpr hname)
      · exact Or.inl ((isImported_congr (shape?_addModule_of_ne hname (w.ran xs) m)).symm.trans hn)
    · obtain ⟨hname, hcompleted⟩ := hended x hx
      rw [hcompleted, hname, isImported_eq_isSome_shape?, hself]
      simp

/-- **What an import does**: it runs bodies of modules that it needs, and a module that it succeeds
on is imported. -/
theorem importUp_follows : ∀ {up : List String}, AreParts up → ∀ w : Workspace,
    ∃ new, Follows w (w.importUp up).1 (w.neededUp up) new ∧
      ((w.importUp up).2 = .ok () → up ≠ [] → (w.importUp up).1.isImported (nameUp up) = true)
  | [], _, w => ⟨[], .refl w, fun _ hne => absurd rfl hne⟩
  | part :: above, h, w => by
      cases hknown : w.isImported (nameUp (part :: above)) with
      | true =>
        rw [importUp_of_isImported hknown, neededUp, if_pos hknown]
        exact ⟨[], .refl w, fun _ _ => hknown⟩
      | false =>
        obtain ⟨new, hfollows, -⟩ := importUp_follows (areParts_cons.mp h).2 w
        have hself : nameUp (part :: above) ∉ w.neededUp above := fun hmem =>
          nameUp_not_mem_lineageUp h (neededUp_subset hmem)
        rw [importUp_cons hknown, neededUp, hknown]
        simp only [Bool.false_eq_true, if_false]
        rcases hrun : w.importUp above with ⟨v, cause | ⟨⟩⟩ <;> rw [hrun] at hfollows
        · refine ⟨new, ?_, fun hok => nomatch hok⟩
          have hmore := hfollows.trans (.refl v) fun _ _ => List.not_mem_nil
          rw [List.append_nil, List.append_nil] at hmore
          exact { hmore with
            added := fun n hn => (hmore.added n hn).imp_right (List.mem_append_left _)
            order := hmore.order.trans (List.sublist_append_left _ _) }
        · have hnew : v.isImported (nameUp (part :: above)) = false := by
            rw [hfollows.isImported_eq hself, hknown]
          refine ⟨new ++ (v.madeBelow part above).1,
            hfollows.trans (importPart_follows h hnew) fun n hn hlast => ?_, fun hok _ => ?_⟩
          · exact hself (List.mem_singleton.mp hlast ▸ hn)
          · simp only [importPart_eq hnew] at hok ⊢
            rcases hmade : v.madeBelow part above with ⟨xs, cause | m⟩
            · rw [hmade] at hok
              cases hok
            · simp only [isImported_eq_isSome_shape?, shape?_addModule_self h, Option.isSome_some]

/-- An import that succeeds leaves the module imported. -/
theorem isImported_importUp (h : AreParts up) (hne : up ≠ []) (hok : (w.importUp up).2 = .ok ()) :
    (w.importUp up).1.isImported (nameUp up) = true := by
  obtain ⟨new, -, himported⟩ := importUp_follows h w
  exact himported hok hne

/-- The import of the parent does not bring in the module. -/
theorem isImported_importUp_above (h : AreParts (part :: above))
    (hnew : w.isImported (nameUp (part :: above)) = false) :
    (w.importUp above).1.isImported (nameUp (part :: above)) = false := by
  obtain ⟨new, hfollows, -⟩ := importUp_follows (areParts_cons.mp h).2 w
  rw [hfollows.isImported_eq fun hmem => nameUp_not_mem_lineageUp h (neededUp_subset hmem), hnew]

/-- **A module that is not imported**, whose parent can be imported: it is made below the parent. -/
theorem importUp_cons_of_ok (h : AreParts (part :: above))
    (hnew : w.isImported (nameUp (part :: above)) = false) (hok : (w.importUp above).2 = .ok ()) :
    w.importUp (part :: above) =
      match (w.importUp above).1.madeBelow part above with
      | (xs, .error cause) => ((w.importUp above).1.ran xs, .error cause)
      | (xs, .ok m) => (((w.importUp above).1.ran xs).addModule above.reverse part m, .ok ()) := by
  have hlater := isImported_importUp_above h hnew
  rw [importUp_cons hnew, ← importPart_eq hlater]
  rcases hrun : w.importUp above with ⟨v, result⟩
  obtain rfl : result = .ok () := by rw [← hok, hrun]
  rfl

/-- **A submodule takes the place of an attribute** of its parent. -/
theorem lookup_importUp_above (h : AreParts (part :: above)) (hne : above ≠ [])
    (hnew : w.isImported (nameUp (part :: above)) = false)
    (hok : (w.importUp (part :: above)).2 = .ok ()) :
    ∃ exports, (w.importUp (part :: above)).1.modules.lookup (nameUp above) =
      ((w.importUp above).1.modules.lookup (nameUp above)).map fun p =>
        { p with exports := insertEntry part (.module (nameUp (part :: above)) exports) p.exports } := by
  have habove : (w.importUp above).2 = .ok () := by
    cases herror : (w.importUp above).2 with
    | ok _ => rfl
    | error cause =>
      rw [importUp_cons_of_error hnew herror, herror] at hok
      cases hok
  rw [importUp_cons_of_ok h hnew habove] at hok ⊢
  rcases hmade : (w.importUp above).1.madeBelow part above with ⟨xs, cause | m⟩ <;>
    simp only [hmade] at hok ⊢
  · cases hok
  · refine ⟨m.exports, ?_⟩
    rw [lookup_addModule_of_ne (nameUp_ne_above h hne)]
    simp only [ne_eq, hne, not_false_eq_true, and_self, if_true]
    rfl

theorem executed_importUp_cons (h : AreParts (part :: above))
    (hnew : w.isImported (nameUp (part :: above)) = false) (hok : (w.importUp above).2 = .ok ()) :
    (w.importUp (part :: above)).1.executed =
      (w.importUp above).1.executed ++ ((w.importUp above).1.madeBelow part above).1 := by
  rw [importUp_cons_of_ok h hnew hok]
  rcases (w.importUp above).1.madeBelow part above with ⟨xs, cause | m⟩ <;> rfl

/-- **Each body that an import runs** is run for a module on the way, below a parent that could be
imported. -/
theorem exists_madeBelow_of_executed {x : Execution} : ∀ {up : List String}, AreParts up →
    ∀ {new : List Execution}, (w.importUp up).1.executed = w.executed ++ new → x ∈ new →
      ∃ part above, part :: above <:+ up ∧ w.isImported (nameUp (part :: above)) = false ∧
        (w.importUp above).2 = .ok () ∧ x ∈ ((w.importUp above).1.madeBelow part above).1
  | [], _, new, hnew, hx => by
      have hnil : new = [] := List.append_right_eq_self.mp hnew.symm
      rw [hnil] at hx
      cases hx
  | part :: above, h, new, hnew, hx => by
      have habove := (areParts_cons.mp h).2
      have hfront : ∀ {new : List Execution}, (w.importUp above).1.executed = w.executed ++ new →
          x ∈ new → ∃ p a, p :: a <:+ part :: above ∧ w.isImported (nameUp (p :: a)) = false ∧
            (w.importUp a).2 = .ok () ∧ x ∈ ((w.importUp a).1.madeBelow p a).1 :=
        fun hnew hx => by
          obtain ⟨p, a, hsuffix, hrest⟩ := exists_madeBelow_of_executed habove hnew hx
          exact ⟨p, a, hsuffix.trans (List.suffix_cons part above), hrest⟩
      cases hknown : w.isImported (nameUp (part :: above)) with
      | true =>
        rw [importUp_of_isImported hknown] at hnew
        have hnil : new = [] := List.append_right_eq_self.mp hnew.symm
        rw [hnil] at hx
        cases hx
      | false =>
        cases hok : (w.importUp above).2 with
        | error cause =>
          rw [importUp_cons_of_error hknown hok] at hnew
          exact hfront hnew hx
        | ok _ =>
          obtain ⟨front, hfollows, -⟩ := importUp_follows habove w
          rw [executed_importUp_cons h hknown hok, hfollows.executed, List.append_assoc] at hnew
          rw [← List.append_cancel_left hnew] at hx
          rcases List.mem_append.mp hx with hx | hx
          · exact hfront hfollows.executed hx
          · exact ⟨part, above, List.suffix_rfl, hknown, hok, hx⟩

/-- **An import begins as that of a module that it needs.** -/
theorem exists_executed_of_mem_needed : ∀ {up : List String}, AreParts up →
    part :: above <:+ up → nameUp (part :: above) ∈ w.neededUp up →
      ∃ more, (w.importUp up).1.executed = (w.importUp (part :: above)).1.executed ++ more
  | [], _, hsuffix, _ => absurd (List.suffix_nil.mp hsuffix) (List.cons_ne_nil part above)
  | last :: front, h, hsuffix, hneeded => by
      rcases List.suffix_cons_iff.mp hsuffix with heq | hsuffix
      · exact ⟨[], by rw [heq, List.append_nil]⟩
      · cases hknown : w.isImported (nameUp (last :: front)) with
        | true =>
          rw [neededUp, if_pos hknown] at hneeded
          cases hneeded
        | false =>
          -- the module is on the way to the parent, so the import of the parent needs it
          have hfront : nameUp (part :: above) ∈ w.neededUp front := by
            rw [neededUp, hknown] at hneeded
            rcases List.mem_append.mp hneeded with hfront | hlast
            · exact hfront
            · have hmem := lineageUp_subset hsuffix (nameUp_mem_lineageUp part above)
              exact absurd (List.mem_singleton.mp hlast ▸ hmem) (nameUp_not_mem_lineageUp h)
          obtain ⟨more, hmore⟩ :=
            exists_executed_of_mem_needed (areParts_cons.mp h).2 hsuffix hfront
          rw [importUp_cons hknown]
          rcases hrun : w.importUp front with ⟨v, cause | ⟨⟩⟩ <;> rw [hrun] at hmore
          · exact ⟨more, hmore⟩
          · obtain ⟨most, hmost⟩ := executed_importPart v last front
            exact ⟨more ++ most, by rw [hmost, hmore, List.append_assoc]⟩

end Workspace

end ProseLinter
