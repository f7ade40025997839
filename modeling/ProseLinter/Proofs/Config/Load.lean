import ProseLinter.Config.Load
import ProseLinter.Proofs.FileTree.LinkFree
import ProseLinter.Proofs.Text.Utf8

/-!
# Proofs/Config/Load — how loading the settings ends

Loading the settings from the file at a path is to end in one of two ways (`Ends`): with settings, or
with an error of the configuration, both of which tell the path.  What **escapes** is any other
failure, and `Escapes` lists where it comes from: the path, the bytes of the file, the limits on what
is read, and the shape of the two tables that lead to the settings.  `load_given` says that loading
ends as it is to exactly if nothing escapes, whatever the limit on nesting is.
-/

namespace ProseLinter

namespace Entry

variable {α : Type}

/-- Names are looked up without a look at their characters. -/
theorem walk_ne_nullCharacter (tree : Entry α) (budget : ℕ) (loc : Location) (names : List String) :
    tree.walk budget loc names ≠ .error .nullCharacter := by
  fun_induction walk tree budget loc names <;> first | assumption | simp

/-- **A null character** is what a path is refused for, and nothing else is refused for one. -/
theorem read_eq_nullCharacter_iff {tree : Entry α} {cwd : Location} {p : Path} :
    tree.read cwd p = .error .nullCharacter ↔ hasNull p = true := by
  have hopen : tree.openPath cwd p = .error .nullCharacter ↔ hasNull p = true := by
    rcases openPath_cases tree cwd p with ⟨hnull, h⟩ | ⟨hnull, -, h⟩ | ⟨hnull, -, h⟩
    · simp [hnull, h]
    · simp [hnull, h]
    · simp [hnull, h, walk_ne_nullCharacter]
  rw [← hopen, read]
  split <;> simp_all

end Entry

namespace Config

variable {α : Type} {depth : ℕ} {contentOf : α → List UInt8} {tree : Entry α} {cwd : Location}
  {p : Path} {f : Failure}

/-! ## How loading is to end -/

/-- **Loading ends** with settings that come from a path, or with an error of the configuration at
that path. -/
inductive Ends (path : Option String) : Except ConfigFailure Config → Prop
  | settings {c : Config} : c.path = path → Ends path (.ok c)
  | rejected (fault : ConfigFault) : Ends path (.error (.rejected ⟨fault, path⟩))

/-- The file at a path holds a text: it is encoded in the bytes, and its line breaks are made one. -/
def HoldsText (contentOf : α → List UInt8) (tree : Entry α) (cwd : Location) (p : Path)
    (source : List Char) : Prop :=
  ∃ content cs, tree.read cwd p = .ok content ∧ Text.encode cs = contentOf content ∧
    source = Text.joinReturns cs

/-- The file at a path is a document with some entries, as far as it may be nested. -/
def HoldsEntries (depth : ℕ) (contentOf : α → List UInt8) (tree : Entry α) (cwd : Location)
    (p : Path) (entries : List (String × Value)) : Prop :=
  ∃ source, HoldsText contentOf tree cwd p source ∧ Toml.read depth source = .ok entries

/-- **What escapes**: a failure that is no error of the configuration, and why it comes up. -/
inductive Escapes (depth : ℕ) (contentOf : α → List UInt8) (tree : Entry α) (cwd : Location)
    (p : Path) : Failure → Prop
  /-- The path holds a null character. -/
  | nullCharacter : Entry.hasNull p = true → Escapes depth contentOf tree cwd p (.value .badValue)
  /-- The bytes of the file are the encoding of no text. -/
  | undecodable {content : α} : tree.read cwd p = .ok content →
      (∀ cs, Text.encode cs ≠ contentOf content) → Escapes depth contentOf tree cwd p .undecodable
  /-- A number of the document has more digits than are read. -/
  | tooManyDigits {source : List Char} {left : ℕ} : HoldsText contentOf tree cwd p source →
      Toml.read depth source = .error ⟨.tooManyDigits, left⟩ →
      Escapes depth contentOf tree cwd p (.value .tooManyDigits)
  /-- The document is nested more deeply than is read. -/
  | tooDeep {source : List Char} {left : ℕ} : HoldsText contentOf tree cwd p source →
      Toml.read depth source = .error ⟨.tooDeep, left⟩ →
      Escapes depth contentOf tree cwd p (.value .tooDeep)
  /-- The entry that is to lead to the settings is no table. -/
  | tools {entries : List (String × Value)} {v : Value} :
      HoldsEntries depth contentOf tree cwd p entries → entries.lookup "tool" = some v →
      (∀ t, v ≠ .table t) → Escapes depth contentOf tree cwd p (.value .missingField)
  /-- The settings are no table. -/
  | settings {entries tool : List (String × Value)} {v : Value} :
      HoldsEntries depth contentOf tree cwd p entries → entries.lookup "tool" = some (.table tool) →
      tool.lookup "textguard" = some v → (∀ t, v ≠ .table t) →
      Escapes depth contentOf tree cwd p (.value .missingField)

/-! ## From the document to the settings -/

/-- A table is checked for defects. -/
theorem ends_ofValue (path : Option String) (entries : List (String × Value)) :
    Ends path (ofValue path (.table entries)) := by
  by_cases h : defects entries = []
  · simp only [ofValue, h]
    exact .settings rfl
  · rw [ofValue_eq_rejected h]
    exact .rejected _

theorem ofValue_of_ne_table {path : Option String} {v : Value} (h : ∀ t, v ≠ .table t) :
    ofValue path v = .error (.failed (.value .missingField)) := by
  cases v with
  | table entries => exact absurd rfl (h entries)
  | _ => rfl

theorem ofDocument_of_ne_table {path : String} {entries : List (String × Value)} {v : Value}
    (hv : entries.lookup "tool" = some v) (h : ∀ t, v ≠ .table t) :
    ofDocument path entries = .error (.failed (.value .missingField)) := by
  rw [ofDocument, hv]
  cases v with
  | table entries => exact absurd rfl (h entries)
  | _ => rfl

theorem ofDocument_of_table {path : String} {entries tool : List (String × Value)}
    (h : entries.lookup "tool" = some (.table tool)) :
    ofDocument path entries = ofValue (some path) ((tool.lookup "textguard").getD (.table [])) := by
  rw [ofDocument, h]
  rfl

/-- **A document** gives settings or their defects, unless a table on the way is none. -/
theorem ofDocument_cases (path : String) (entries : List (String × Value)) :
    Ends (some path) (ofDocument path entries) ∨
      (∃ v, entries.lookup "tool" = some v ∧ ∀ t, v ≠ .table t) ∨
      ∃ tool v, entries.lookup "tool" = some (.table tool) ∧
        tool.lookup "textguard" = some v ∧ ∀ t, v ≠ .table t := by
  have htable : ∀ v : Value, (∃ t, v = .table t) ∨ ∀ t, v ≠ .table t := fun v => by
    cases v <;> simp
  cases htool : entries.lookup "tool" with
  | none =>
    rw [ofDocument, htool]
    exact Or.inl (ends_ofValue _ _)
  | some v =>
    rcases htable v with ⟨tool, rfl⟩ | hv
    · rw [ofDocument_of_table htool]
      cases hsection : tool.lookup "textguard" with
      | none => exact Or.inl (ends_ofValue _ _)
      | some u =>
        rcases htable u with ⟨t, rfl⟩ | hu
        · exact Or.inl (ends_ofValue _ _)
        · exact Or.inr (Or.inr ⟨tool, u, rfl, hsection, hu⟩)
    · exact Or.inr (Or.inl ⟨v, rfl, hv⟩)

/-! ## From the file to the document -/

/-- What is read is decoded. -/
theorem ofFile_of_read {content : α} (h : tree.read cwd p = .ok content) :
    ofFile depth contentOf tree cwd p = ofBytes depth p.text (contentOf content) := by
  rw [ofFile, h]

/-- **The text of a file** is read as a document. -/
theorem ofFile_of_holdsText {source : List Char} (h : HoldsText contentOf tree cwd p source) :
    ofFile depth contentOf tree cwd p =
      match Toml.read depth source with
      | .ok entries => ofDocument p.text entries
      | .error ⟨.tooManyDigits, _⟩ => .error (.failed (.value .tooManyDigits))
      | .error ⟨.tooDeep, _⟩ => .error (.failed (.value .tooDeep))
      | .error fault => .error (.rejected ⟨.syntaxFault (fault.text source), some p.text⟩) := by
  obtain ⟨content, cs, hread, hencode, rfl⟩ := h
  rewrite [ofFile_of_read hread, ofBytes, ← hencode, Text.decode?_encode]
  rfl

/-- The entries of a file are the document. -/
theorem ofFile_of_holdsEntries {entries : List (String × Value)}
    (h : HoldsEntries depth contentOf tree cwd p entries) :
    ofFile depth contentOf tree cwd p = ofDocument p.text entries := by
  obtain ⟨source, hsource, hread⟩ := h
  rw [ofFile_of_holdsText hsource, hread]

/-- What escapes is what loading fails with… -/
theorem ofFile_of_escapes (h : Escapes depth contentOf tree cwd p f) :
    ofFile depth contentOf tree cwd p = .error (.failed f) := by
  cases h with
  | nullCharacter hnull => rw [ofFile, Entry.read_eq_nullCharacter_iff.mpr hnull]
  | undecodable hread hnone =>
    rw [ofFile_of_read hread, ofBytes, Text.decode?_eq_none_iff.mpr hnone]
  | tooManyDigits hsource hread => rw [ofFile_of_holdsText hsource, hread]
  | tooDeep hsource hread => rw [ofFile_of_holdsText hsource, hread]
  | tools hentries htool hv => rw [ofFile_of_holdsEntries hentries, ofDocument_of_ne_table htool hv]
  | settings hentries htool hsection hv =>
    rw [ofFile_of_holdsEntries hentries, ofDocument_of_table htool, hsection]
    exact ofValue_of_ne_table hv

/-- …and nothing else comes up. -/
theorem ofFile_cases (depth : ℕ) (contentOf : α → List UInt8) (tree : Entry α) (cwd : Location)
    (p : Path) :
    Ends (some p.text) (ofFile depth contentOf tree cwd p) ∨
      ∃ f, Escapes depth contentOf tree cwd p f := by
  cases hread : tree.read cwd p with
  | error fault =>
    by_cases hnull : fault = .nullCharacter
    · rw [hnull, Entry.read_eq_nullCharacter_iff] at hread
      exact Or.inr ⟨_, .nullCharacter hread⟩
    · refine Or.inl ?_
      rw [ofFile, hread]
      cases fault with
      | nullCharacter => exact absurd rfl hnull
      | _ => exact .rejected _
  | ok content =>
    cases hdecode : Text.decode? (contentOf content) with
    | none => exact Or.inr ⟨_, .undecodable hread (Text.decode?_eq_none_iff.mp hdecode)⟩
    | some cs =>
      have hsource : HoldsText contentOf tree cwd p (Text.joinReturns cs) :=
        ⟨content, cs, hread, Text.encode_of_decode? hdecode, rfl⟩
      cases hentries : Toml.read depth (Text.joinReturns cs) with
      | ok entries =>
        rw [ofFile_of_holdsText hsource, hentries]
        rcases ofDocument_cases p.text entries with
          hends | ⟨v, htool, hv⟩ | ⟨tool, v, htool, hsection, hv⟩
        · exact Or.inl hends
        · exact Or.inr ⟨_, .tools ⟨_, hsource, hentries⟩ htool hv⟩
        · exact Or.inr ⟨_, .settings ⟨_, hsource, hentries⟩ htool hsection hv⟩
      | error fault =>
        obtain ⟨cause, left⟩ := fault
        by_cases hdigits : cause = .tooManyDigits
        · exact Or.inr ⟨_, .tooManyDigits hsource (hdigits ▸ hentries)⟩
        by_cases hdeep : cause = .tooDeep
        · exact Or.inr ⟨_, .tooDeep hsource (hdeep ▸ hentries)⟩
        refine Or.inl ?_
        rw [ofFile_of_holdsText hsource, hentries]
        split
        · next h => cases h
        · next h => exact absurd (Toml.Fault.mk.inj (Except.error.inj h)).1 hdigits
        · next h => exact absurd (Toml.Fault.mk.inj (Except.error.inj h)).1 hdeep
        · exact .rejected _

/-- **How loading from a path ends**, for each limit on nesting.  It ends with settings or with an
error of the configuration, which tell the path, exactly if nothing escapes; and it fails in another
way exactly with what escapes. -/
theorem load_given (depth : ℕ) (contentOf : α → List UInt8) (tree : Entry α) (cwd : Location)
    (p : Path) :
    (Ends (some p.text) (load depth contentOf tree cwd (some p)) ↔
        ∀ f, ¬ Escapes depth contentOf tree cwd p f) ∧
      ∀ f, load depth contentOf tree cwd (some p) = .error (.failed f) ↔
        Escapes depth contentOf tree cwd p f := by
  have hload : load depth contentOf tree cwd (some p) = ofFile depth contentOf tree cwd p := rfl
  rw [hload]
  have hends : ∀ {f}, ofFile depth contentOf tree cwd p = .error (.failed f) →
      ¬ Ends (some p.text) (ofFile depth contentOf tree cwd p) := fun h hends => by
    rw [h] at hends
    cases hends
  refine ⟨⟨fun h f hf => hends (ofFile_of_escapes hf) h, fun h => ?_⟩,
    fun f => ⟨fun h => ?_, ofFile_of_escapes⟩⟩
  · rcases ofFile_cases depth contentOf tree cwd p with hends | ⟨f, hf⟩
    · exact hends
    · exact absurd hf (h f)
  · rcases ofFile_cases depth contentOf tree cwd p with hends' | ⟨g, hg⟩
    · exact absurd hends' (hends h)
    · obtain rfl := ConfigFailure.failed.inj (Except.error.inj ((ofFile_of_escapes hg).symm.trans h))
      exact hg

/-- A directory with a file that is no text, and one whose entry for tools is a number. -/
def unsound : Entry (List UInt8) :=
  .directory [("bad.toml", .file [0xFF]), ("tool.toml", .file [116, 111, 111, 108, 61, 53])]

theorem linkFree_unsound : unsound.LinkFree := ⟨by decide, by decide, by decide⟩

/-- **Loading ends in other ways** than with settings or an error of the configuration: where the
bytes are no text, where a table on the way to the settings is none, and at a null character. -/
theorem load_unsound :
    (∀ depth, load depth id unsound [] (some ⟨.absolute, ["bad.toml"]⟩) =
        .error (.failed .undecodable)) ∧
      (∀ depth, load depth id unsound [] (some ⟨.absolute, ["tool.toml"]⟩) =
        .error (.failed (.value .missingField))) ∧
      ∀ depth, load depth id unsound [] (some ⟨.absolute, ["\x00"]⟩) =
        .error (.failed (.value .badValue)) := by
  have hbad : unsound.read [] ⟨.absolute, ["bad.toml"]⟩ = .ok [0xFF] :=
    linkFree_unsound.read_eq (by decide) [] rfl
  have htool : unsound.read [] ⟨.absolute, ["tool.toml"]⟩ = .ok [116, 111, 111, 108, 61, 53] :=
    linkFree_unsound.read_eq (by decide) [] rfl
  have hentries : ∀ depth, Toml.read depth "tool=5".toList = .ok [("tool", .int 5)] := fun _ => by
    rfl
  have hload : ∀ depth p, load depth id unsound [] (some p) = ofFile depth id unsound [] p :=
    fun _ _ => rfl
  simp only [hload]
  refine ⟨fun _ => ofFile_of_escapes (.undecodable hbad (Text.decode?_eq_none_iff.mp (by rfl))),
    fun depth => ofFile_of_escapes
      (.tools ⟨_, ⟨_, "tool=5".toList, htool, by rfl, by rfl⟩, hentries depth⟩ rfl ?_),
    fun _ => ofFile_of_escapes (.nullCharacter (by decide))⟩
  simp

end Config

end ProseLinter
