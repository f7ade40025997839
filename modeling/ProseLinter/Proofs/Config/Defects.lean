import ProseLinter.Proofs.Config.Accepted

/-!
# Proofs/Config/Defects — every defect is reported once

The settings that a configuration table holds, and the rules in its table of rules, are checked one
by one.  Whether such an item is defective is a matter of the item alone (`Config.Item.isDefective`),
and what is reported are the defects of the defective items, one for each and in their order
(`Config.defects_eq_reported`).  So a table is rejected exactly if one of its items is defective, and
the message lists them: `Config.ofValue_table`.
-/

namespace ProseLinter

/-- What a configuration may set. -/
inductive Setting where
  | included
  | excluded
  | formatter
  | color
  | rules
  deriving DecidableEq, Repr

namespace Setting

/-- The key of a setting. -/
def key : Setting → String
  | included => "include"
  | excluded => "exclude"
  | formatter => "formatter"
  | color => "color"
  | rules => "rules"

/-- The settings in the order in which they are checked. -/
def inOrder : List Setting := [included, excluded, formatter, color, rules]

end Setting

namespace Config

variable {path : Option String} {entries : List (String × Value)}

/-! ## The items of a table -/

/-- **What is checked**: a setting, or a rule. -/
inductive Item where
  | setting (s : Setting) (v : Value)
  | rule (name : String) (v : Value)
  deriving BEq, Repr

/-- Whether a value is a text. -/
def isText : Value → Bool
  | .text _ => true
  | _ => false

/-- Patterns are a tuple, or a list of texts. -/
def arePatterns : Value → Bool
  | .tuple _ => true
  | .list items => items.all isText
  | _ => false

/-- Whether a value names a severity. -/
def namesSeverity (v : Value) : Bool := (Severity.ofValue v).isOk

namespace Item

/-- **A defective item**: a setting of the wrong kind, or a rule that is no boolean, text or table,
or that asks for a severity that does not exist. -/
def isDefective : Item → Bool
  | setting .included v => !arePatterns v
  | setting .excluded v => !arePatterns v
  | setting .formatter (.text s) => s.isEmpty
  | setting .color (.bool _) => false
  | setting .rules (.table _) => false
  | setting _ _ => true
  | rule _ (.bool _) => false
  | rule _ (.text s) => !namesSeverity (.text s)
  | rule _ (.table options) => (options.lookup "severity").any fun v => !namesSeverity v
  | rule _ _ => true

/-- What a reader calls an item. -/
def label : Item → List Char
  | setting s _ => s.key.toList
  | rule name _ => "rules.".toList ++ name.toList

/-- **The defect of a defective item.** -/
def defect : Item → Defect
  | setting .included v => .patterns "include" v.kindName
  | setting .excluded v => .patterns "exclude" v.kindName
  | setting .formatter _ => .formatter
  | setting .color _ => .color
  | setting .rules _ => .rulesNoTable
  | rule name (.text s) => .ruleSeverity name (.text s)
  | rule name (.table options) => .ruleSeverity name ((options.lookup "severity").getD .none)
  | rule name v => .rule name v.kindName

/-- What is said of an item names it first. -/
theorem label_prefix_text_defect (item : Item) : item.label <+: item.defect.text := by
  cases item with
  | setting s v =>
    cases s with
    | included => exact ⟨_, (List.append_assoc _ _ _).symm⟩
    | excluded => exact ⟨_, (List.append_assoc _ _ _).symm⟩
    | formatter =>
      exact (by decide : "formatter".toList <+: "formatter must be a non-empty string".toList)
    | color => exact (by decide : "color".toList <+: "color must be a boolean".toList)
    | rules => exact (by decide : "rules".toList <+: "rules must be a table".toList)
  | rule name v =>
    cases v with
    | text s => exact ⟨_, (List.append_assoc _ _ _).symm⟩
    | table options => exact ⟨_, (List.append_assoc _ _ _).symm⟩
    | _ => exact ⟨_, (List.append_assoc _ _ _).symm⟩

end Item

/-- The item of a setting, if a table holds it. -/
def settingIn (entries : List (String × Value)) (s : Setting) : List Item :=
  (entries.lookup s.key).toList.map (.setting s)

/-- **The items of a table**: the settings, and then the rules. -/
def items (entries : List (String × Value)) : List Item :=
  Setting.inOrder.flatMap (settingIn entries) ++ (rulesIn entries).map fun r => .rule r.1 r.2

/-- **The defects of the defective items**, one for each. -/
def reported (items : List Item) : List Defect := (items.filter (·.isDefective)).map (·.defect)

theorem reported_append (items items' : List Item) :
    reported (items ++ items') = reported items ++ reported items' := by
  rw [reported, List.filter_append, List.map_append]
  rfl

/-- What is reported of a setting. -/
theorem reported_settingIn (entries : List (String × Value)) (s : Setting) :
    reported (settingIn entries s) =
      ((entries.lookup s.key).toList.filter fun v => (Item.setting s v).isDefective).map
        fun v => (Item.setting s v).defect := by
  rw [reported, settingIn, List.filter_map, List.map_map]
  rfl

/-! ## Every check reports the defect of its item -/

/-- Values can be read as texts if all of them are texts. -/
theorem isOk_textsOf : ∀ items : List Value, (textsOf items).isOk = items.all isText
  | [] => rfl
  | v :: items => by
    cases v with
    | text s =>
      rw [List.all_cons, isText, Bool.true_and, ← isOk_textsOf items, textsOf]
      cases textsOf items <;> rfl
    | _ => rfl

theorem checkPatterns_defects (entries : List (String × Value)) (key : String)
    (standard : List String) :
    (checkPatterns entries key standard).defects =
      ((entries.lookup key).toList.filter fun v => !arePatterns v).map
        fun v => .patterns key v.kindName := by
  cases hlookup : entries.lookup key with
  | none => simp [checkPatterns, hlookup]
  | some v =>
    cases v with
    | list items =>
      have hok := isOk_textsOf items
      cases htexts : textsOf items <;> rw [htexts] at hok
        <;> simp [checkPatterns, hlookup, htexts, arePatterns, ← hok, Except.isOk, Except.toBool,
          Value.kindName]
    | _ => simp [checkPatterns, hlookup, arePatterns]

theorem checkFormatter_defects (entries : List (String × Value)) :
    (checkFormatter entries).defects = reported (settingIn entries .formatter) := by
  rw [reported_settingIn, Setting.key]
  cases hlookup : entries.lookup "formatter" with
  | none => simp [checkFormatter, hlookup]
  | some v =>
    cases v with
    | text s =>
      cases hs : s.isEmpty <;> simp [checkFormatter, hlookup, Item.isDefective, hs, Item.defect]
    | _ => simp [checkFormatter, hlookup, Item.isDefective, Item.defect]

theorem checkColor_defects (entries : List (String × Value)) :
    (checkColor entries).defects = reported (settingIn entries .color) := by
  rw [reported_settingIn, Setting.key]
  cases hlookup : entries.lookup "color" with
  | none => simp [checkColor, hlookup]
  | some v => cases v <;> simp [checkColor, hlookup, Item.isDefective, Item.defect]

/-- What is made of the severity that a value asks for. -/
theorem severityDefect_eq (name : String) (v : Value) :
    (match Severity.ofValue v with
      | .ok _ => none
      | .error (.unknownSeverity asked) => some (Defect.ruleSeverity name asked)
      | .error _ => none) =
      if !namesSeverity v then some (.ruleSeverity name v) else none := by
  rw [namesSeverity]
  cases hv : Severity.ofValue v with
  | ok s => rfl
  | error e =>
    obtain rfl := Severity.eq_unknownSeverity_of_ofValue hv
    rfl

/-- The value of a rule has a defect if the rule is defective. -/
theorem ruleDefect_eq (name : String) (v : Value) :
    ruleDefect name v =
      if (Item.rule name v).isDefective then some (Item.rule name v).defect else none := by
  cases v with
  | text s => exact severityDefect_eq name (.text s)
  | table options =>
    cases hasked : options.lookup "severity" with
    | none => simp [ruleDefect, Severity.ofConfig, Item.isDefective, hasked]
    | some asked =>
      simp only [ruleDefect, Severity.ofConfig, Item.isDefective, Item.defect, hasked]
      exact severityDefect_eq name asked
  | _ => rfl

/-- What is reported of rules. -/
theorem reported_rules (rules : List (String × Value)) :
    reported (rules.map fun r => .rule r.1 r.2) = rules.filterMap fun r => ruleDefect r.1 r.2 := by
  rw [reported, ← List.filterMap_eq_map', List.filterMap_filter, List.filterMap_map]
  exact List.filterMap_congr fun r _ => (ruleDefect_eq r.1 r.2).symm

/-- Rules are checked one by one, if there is a table of them. -/
theorem checkRules_defects (entries : List (String × Value)) :
    (checkRules entries).defects =
      reported (settingIn entries .rules) ++
        reported ((rulesIn entries).map fun r => .rule r.1 r.2) := by
  rw [reported_settingIn, reported_rules, Setting.key]
  cases hlookup : entries.lookup "rules" with
  | none => simp [checkRules, hlookup, rulesIn]
  | some v => cases v <;> simp [checkRules, hlookup, rulesIn, Item.isDefective, Item.defect]

/-- **Every defect is reported once**: what is found in a table are the defects of its defective
items. -/
theorem defects_eq_reported (entries : List (String × Value)) :
    defects entries = reported (items entries) := by
  simp only [defects, items, Setting.inOrder, List.flatMap_cons, List.flatMap_nil, reported_append,
    List.append_nil, List.append_assoc, checkFormatter_defects, checkColor_defects,
    checkRules_defects, checkPatterns_defects, reported_settingIn]
  rfl

/-- The error of a table lists its defective items. -/
theorem text_reported (entries : List (String × Value)) (path : Option String) :
    ConfigError.text ⟨.defects (reported (items entries)), path⟩ =
      Text.join ['\n'] ("Configuration errors:".toList ::
        ((items entries).filter (·.isDefective)).map fun item =>
          "  - ".toList ++ item.defect.text) := by
  simp only [ConfigError.text, reported, List.map_map]
  rfl

/-- **A table is rejected exactly if one of its items is defective.**  The error lists the
defective items, each once, in the order of the items, and each under its own name. -/
theorem ofValue_table (path : Option String) (entries : List (String × Value)) :
    ((∃ failure, ofValue path (.table entries) = .error failure) ↔
        ∃ item ∈ items entries, item.isDefective = true) ∧
      (∀ failure, ofValue path (.table entries) = .error failure →
        ∃ error, failure = .rejected error ∧
          error.fault = .defects (((items entries).filter (·.isDefective)).map (·.defect)) ∧
          error.text = Text.join ['\n'] ("Configuration errors:".toList ::
            ((items entries).filter (·.isDefective)).map fun item =>
              "  - ".toList ++ item.defect.text)) ∧
      ∀ item ∈ items entries, item.label <+: item.defect.text := by
  have hnone : defects entries = [] ↔ ¬∃ item ∈ items entries, item.isDefective = true := by
    rw [defects_eq_reported, reported, List.map_eq_nil_iff, List.filter_eq_nil_iff]
    simp only [not_exists, not_and]
  by_cases hdefects : defects entries = []
  · have hok : ∀ failure, ofValue path (.table entries) ≠ .error failure := fun failure h => by
      simp only [ofValue, hdefects] at h
      cases h
    refine ⟨⟨?_, fun h => absurd h (hnone.mp hdefects)⟩,
      fun failure h => absurd h (hok failure), fun item _ => item.label_prefix_text_defect⟩
    rintro ⟨failure, h⟩
    exact absurd h (hok failure)
  · have hrejected : ofValue path (.table entries) = _ := ofValue_eq_rejected hdefects
    rw [defects_eq_reported] at hrejected
    refine ⟨iff_of_true ⟨_, hrejected⟩ (not_not.mp fun h => hdefects (hnone.mpr h)),
      fun failure h => ?_, fun item _ => item.label_prefix_text_defect⟩
    obtain rfl := Except.error.inj (hrejected.symm.trans h)
    exact ⟨_, rfl, rfl, text_reported entries path⟩

/-- Three settings and two rules are defective. -/
example : reported (items [("rules", .table [("a", .bool true), ("b", .int 1), ("c", .text "OFF"),
      ("d", .table [("severity", .bool true)])]), ("color", .bool false), ("include", .text "*.md"),
      ("exclude", .list [.none]), ("formatter", .text "")]) =
    [.patterns "include" "str", .patterns "exclude" "list", .formatter, .rule "b" "int",
      .ruleSeverity "d" (.bool true)] := by
  cbv

end Config

end ProseLinter
