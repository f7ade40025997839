import ProseLinter.Config.Show
import ProseLinter.Proofs.Config.Accepted
import ProseLinter.Proofs.Json.Data

/-!
# Proofs/Config/Dump — settings that are shown can be read again

The JSON of settings is that of a table (`Config.toDict`), and settings are accepted again from
their table (`Config.ofValue_toDict`).  So settings that come from data are shown in JSON exactly if
their integers are not too long, and whoever reads the text and gives it to the check of settings
gets the same settings (`Config.toJsonText_ofValue`).
-/

namespace ProseLinter.Config

open Value (IsData)

variable {path : Option String} {entries : List (String × Value)} {c : Config}

/-- **Settings as a table.** -/
def toDict (c : Config) : Value :=
  .table
    [ ("config_path", (c.path.map Value.text).getD .none), ("include", .list c.included),
      ("exclude", .list c.excluded), ("formatter", .text c.formatter), ("color", .bool c.color),
      ("rules", .table c.rules) ]

open Value in
/-- The JSON of settings is that of their table. -/
theorem toJson_toDict (c : Config) : c.toDict.toJson = c.toJson := by
  have hpath : ((c.path.map Value.text).getD .none).toJson =
      pure ((c.path.map Json.text).getD .null) := by cases c.path <;> rfl
  have hbool : (Value.bool c.color).toJson = pure (.bool c.color) := rfl
  simp only [toDict, toJson, toJson_table, toJson_list, toJson_text, toJsonEntries_cons,
    toJsonEntries_nil, hpath, hbool, bind_assoc, pure_bind]

/-! ## Settings that stand for themselves -/

/-- **Settled**: nothing in the settings has a defect, and patterns are texts. -/
structure IsSettled (c : Config) : Prop where
  included : ∃ ss, textsOf c.included = .ok ss
  excluded : ∃ ss, textsOf c.excluded = .ok ss
  formatter : c.formatter.isEmpty = false
  rules : ∀ r ∈ c.rules, ruleDefect r.1 r.2 = none

theorem checkPatterns_of_list {key : String} {items : List Value}
    (hkey : entries.lookup key = some (.list items)) (h : ∃ ss, textsOf items = .ok ss)
    (standard : List String) : checkPatterns entries key standard = ⟨items, []⟩ := by
  obtain ⟨ss, hss⟩ := h
  simp only [checkPatterns, hkey, hss]

theorem checkFormatter_of_text {s : String} (hkey : entries.lookup "formatter" = some (.text s))
    (h : s.isEmpty = false) : checkFormatter entries = ⟨s, []⟩ := by
  simp only [checkFormatter, hkey, h]
  rfl

theorem checkColor_of_bool {b : Bool} (hkey : entries.lookup "color" = some (.bool b)) :
    checkColor entries = ⟨b, []⟩ := by
  simp only [checkColor, hkey]

theorem checkRules_of_table {rules : List (String × Value)}
    (hkey : entries.lookup "rules" = some (.table rules))
    (h : ∀ r ∈ rules, ruleDefect r.1 r.2 = none) : checkRules entries = ⟨rules, []⟩ := by
  simp only [checkRules, hkey, Checked.mk.injEq]
  exact ⟨List.filter_eq_self.mpr fun r hr => by rw [h r hr]; rfl,
    List.filterMap_eq_nil_iff.mpr h⟩

/-- **Settled settings are accepted** from their table. -/
theorem ofValue_toDict (h : c.IsSettled) : ofValue c.path c.toDict = .ok c := by
  refine ofValue_eq_ok_iff.mpr ⟨_, rfl, ?_, ?_⟩
  · rw [defects_eq_nil_iff, checkPatterns_of_list rfl h.included,
      checkPatterns_of_list rfl h.excluded, checkFormatter_of_text rfl h.formatter,
      checkColor_of_bool rfl, checkRules_of_table rfl h.rules]
    exact ⟨rfl, rfl, rfl, rfl, rfl⟩
  · rw [checkPatterns_of_list rfl h.included, checkPatterns_of_list rfl h.excluded,
      checkFormatter_of_text rfl h.formatter, checkColor_of_bool rfl,
      checkRules_of_table rfl h.rules]

/-- An entry of data is data. -/
theorem isData_of_lookup (hdata : (Value.table entries).IsData) {key : String} {v : Value}
    (hkey : entries.lookup key = some v) : v.IsData := by
  cases hdata with
  | table _ hentries =>
    obtain ⟨front, rest, rfl, -⟩ := List.lookup_eq_some_iff.mp hkey
    exact hentries (key, v) (List.mem_append_right _ List.mem_cons_self)

/-- Accepted patterns are texts where there are no tuples. -/
theorem textsOf_of_accepted (hdata : (Value.table entries).IsData) {key : String}
    {standard : List String} (h : (checkPatterns entries key standard).defects = []) :
    ∃ ss, textsOf (checkPatterns entries key standard).value = .ok ss := by
  rcases patterns_of_accepted h with hstandard | ⟨-, htexts⟩ | htuple
  · rw [hstandard]
    exact ⟨standard, textsOf_map_text standard⟩
  · exact htexts
  · cases isData_of_lookup hdata htuple

/-- **What is accepted of data is settled.** -/
theorem isSettled_of_accepted (hdata : (Value.table entries).IsData)
    (h : ofValue path (.table entries) = .ok c) : c.IsSettled := by
  have hrules := (rules_of_accepted h).2
  obtain ⟨_, ⟨rfl⟩, hdefects, rfl⟩ := ofValue_eq_ok_iff.mp h
  obtain ⟨hincluded, hexcluded, hformatter, -, -⟩ := defects_eq_nil_iff.mp hdefects
  exact ⟨textsOf_of_accepted hdata hincluded, textsOf_of_accepted hdata hexcluded,
    formatter_of_accepted hformatter, hrules⟩

/-- Texts are data. -/
theorem isData_of_textsOf {items : List Value} (h : ∃ ss, textsOf items = .ok ss) :
    (Value.list items).IsData := by
  obtain ⟨ss, hss⟩ := h
  rw [eq_map_of_textsOf hss]
  exact .list (List.forall_mem_map.mpr fun s _ => .text s)

/-- **The table of settled settings is data** if the rules are. -/
theorem isData_toDict (h : c.IsSettled) (hrules : (Value.table c.rules).IsData) :
    c.toDict.IsData := by
  have hpath : ((c.path.map Value.text).getD .none).IsData := by
    cases c.path with
    | none => exact .none
    | some p => exact .text p
  have hincluded := isData_of_textsOf h.included
  have hexcluded := isData_of_textsOf h.excluded
  exact .table (by simp) (by simp [IsData.text, IsData.bool, hpath, hincluded, hexcluded, hrules])

theorem isData_rulesIn (hdata : (Value.table entries).IsData) :
    (Value.table (rulesIn entries)).IsData := by
  unfold rulesIn
  split
  · next hkey => exact isData_of_lookup hdata hkey
  · exact .table .nil (by simp)

/-- Texts can be written. -/
theorem areWritable_of_textsOf {items : List Value} (h : ∃ ss, textsOf items = .ok ss) :
    Value.areWritable items = true := by
  obtain ⟨ss, hss⟩ := h
  rw [eq_map_of_textsOf hss]
  exact Value.areWritable_iff.mpr (List.forall_mem_map.mpr fun _ _ => rfl)

/-- Only the rules may hold what is not written. -/
theorem isWritable_toDict (h : c.IsSettled) :
    c.toDict.isWritable = (Value.table c.rules).isWritable := by
  have hpath : ((c.path.map Value.text).getD .none).isWritable = true := by
    cases c.path <;> rfl
  simp only [toDict, Value.isWritable, Value.entriesAreWritable, hpath,
    areWritable_of_textsOf h.included, areWritable_of_textsOf h.excluded, Bool.true_and,
    Bool.and_true]

/-- **Settings are shown** exactly if their rules can be written. -/
theorem toJsonText_isOk_iff (h : c.IsSettled) (hrules : (Value.table c.rules).IsData) :
    (∃ cs, c.toJsonText = .ok cs) ↔ (Value.table c.rules).isWritable = true := by
  rw [← isWritable_toDict h, ← (isData_toDict h hrules).toJson_isOk_iff, toJson_toDict]
  simp only [toJsonText, map_eq_ok_iff]
  exact ⟨fun ⟨_, j, hj, _⟩ => ⟨j, hj⟩, fun ⟨j, hj⟩ => ⟨_, j, hj, rfl⟩⟩

/-- **Settings that are shown can be read again.**  Settings that are accepted from data are shown in
JSON exactly if the integers of their rules have few enough digits; and whoever reads the text finds
a value from which the same settings are accepted. -/
theorem toJsonText_ofValue {data : Value} (hdata : data.IsData) (h : ofValue path data = .ok c) :
    ((∃ cs, c.toJsonText = .ok cs) ↔ (Value.table c.rules).isWritable = true) ∧
      ∀ cs, c.toJsonText = .ok cs → ∀ read, Json.IsReader read →
        ∃ j, read cs = some j ∧ ofValue path j.toValue = .ok c := by
  obtain ⟨entries, rfl, -, hc⟩ := ofValue_eq_ok_iff.mp h
  have hpath : c.path = path := by rw [hc]
  have hsettled := isSettled_of_accepted hdata h
  have hrules : (Value.table c.rules).IsData := (rules_of_accepted h).1 ▸ isData_rulesIn hdata
  refine ⟨toJsonText_isOk_iff hsettled hrules, fun cs hcs read hread => ?_⟩
  obtain ⟨j, hj, rfl⟩ := map_eq_ok_iff.mp hcs
  obtain ⟨k, hspells, hportable, hvalue⟩ :=
    Json.isTextOf_write (isData_toDict hsettled hrules) (toJson_toDict c ▸ hj) .indented
  refine ⟨k, hread _ k hportable hspells, ?_⟩
  rw [hvalue, ← hpath]
  exact ofValue_toDict hsettled

/-- A rule with a list of words and a limit. -/
def limited (limit : ℤ) : List (String × Value) :=
  [("r", .table [("words", .list [.text "é", .none]), ("limit", .int limit)])]

theorem isData_limited (limit : ℤ) : (Value.table [("rules", .table (limited limit))]).IsData := by
  have hwords : (Value.list [.text "é", .none]).IsData := .list (by simp [IsData.text, IsData.none])
  have hrule : (Value.table [("words", .list [.text "é", .none]), ("limit", .int limit)]).IsData :=
    .table (by simp) (by simp [IsData.int, hwords])
  have hrules : (Value.table (limited limit)).IsData :=
    .table (by simp [limited]) (by simp [limited, hrule])
  exact .table (by simp) (by simp [hrules])

theorem ofValue_limited (limit : ℤ) : ofValue none (.table [("rules", .table (limited limit))]) =
    .ok { Config.default with rules := limited limit } := by
  rfl

theorem isWritable_limited (limit : ℤ) :
    (Value.table (limited limit)).isWritable = Integer.isWritable limit := by
  simp [limited, Value.isWritable, Value.entriesAreWritable, Value.areWritable]

/-- The rule is shown and read again. -/
theorem toJsonText_ofValue_limited :
    ∃ cs j, Config.toJsonText { Config.default with rules := limited (-3) } = .ok cs ∧
      Json.read cs = some j ∧
      ofValue none j.toValue = .ok { Config.default with rules := limited (-3) } := by
  have hwritable : (Value.table (limited (-3))).isWritable = true := by
    rw [isWritable_limited]
    exact Integer.isWritable_iff.mpr (by decide)
  obtain ⟨hshown, hread⟩ := toJsonText_ofValue (isData_limited (-3)) (ofValue_limited (-3))
  obtain ⟨cs, hcs⟩ := hshown.mpr hwritable
  obtain ⟨j, hj, haccepted⟩ := hread cs hcs Json.read Json.isReader_read
  exact ⟨cs, j, hcs, hj, haccepted⟩

/-- **A limit with too many digits** is accepted and not shown. -/
theorem toJsonText_tooLong :
    (Value.table [("rules", .table (limited Integer.tooLong))]).IsData ∧
      ofValue none (.table [("rules", .table (limited Integer.tooLong))]) =
        .ok { Config.default with rules := limited Integer.tooLong } ∧
      ∀ cs, Config.toJsonText { Config.default with rules := limited Integer.tooLong } ≠ .ok cs := by
  refine ⟨isData_limited _, ofValue_limited _, fun cs hcs => ?_⟩
  have hsettled := isSettled_of_accepted (isData_limited Integer.tooLong) (ofValue_limited _)
  have hwritable := (toJsonText_isOk_iff hsettled (isData_rulesIn (isData_limited _))).mp ⟨cs, hcs⟩
  rw [isWritable_limited, Integer.isWritable_tooLong] at hwritable
  cases hwritable

end ProseLinter.Config
