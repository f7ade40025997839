import ProseLinter.Config.Validate
import ProseLinter.Proofs.Outcome

/-!
# Proofs/Config/Accepted — what settings are made of

A table is accepted when none of its entries has a defect, and then each setting is the entry of its
name or the standard one (`Config.ofValue_eq_ok_iff`).  The rules are those of the table, in its
order and with their values (`Config.rules_of_accepted`).
-/

namespace ProseLinter.Config

variable {path : Option String} {entries : List (String × Value)} {c : Config}

/-- The table of rules among the entries of settings; no rules if there is none. -/
def rulesIn (entries : List (String × Value)) : List (String × Value) :=
  match entries.lookup "rules" with
  | some (.table rules) => rules
  | _ => []

/-- **A value is accepted** if it is a table without defects. -/
theorem ofValue_eq_ok_iff {v : Value} : ofValue path v = .ok c ↔ ∃ entries, v = .table entries ∧
    defects entries = [] ∧
    c = ⟨path, (checkPatterns entries "include" defaultIncluded).value,
      (checkPatterns entries "exclude" defaultExcluded).value, (checkFormatter entries).value,
      (checkColor entries).value, (checkRules entries).value⟩ := by
  constructor
  · intro h
    cases v with
    | table entries =>
      by_cases hdefects : defects entries = []
      · simp only [ofValue, hdefects] at h
        exact ⟨entries, rfl, hdefects, (Except.ok.inj h).symm⟩
      · rw [ofValue_eq_rejected hdefects] at h
        cases h
    | _ => cases h
  · rintro ⟨entries, rfl, hdefects, rfl⟩
    simp only [ofValue, hdefects]

/-- No setting of a table without defects has a defect. -/
theorem defects_eq_nil_iff : defects entries = [] ↔
    (checkPatterns entries "include" defaultIncluded).defects = [] ∧
      (checkPatterns entries "exclude" defaultExcluded).defects = [] ∧
      (checkFormatter entries).defects = [] ∧ (checkColor entries).defects = [] ∧
      (checkRules entries).defects = [] := by
  simp only [defects, List.append_eq_nil_iff, and_assoc]

/-- The values that are texts are made of them. -/
theorem eq_map_of_textsOf : ∀ {items : List Value} {ss : List String}, textsOf items = .ok ss →
    items = ss.map .text
  | [], _, h => by
    obtain rfl := Except.ok.inj h
    rfl
  | v :: items, ss, h => by
    cases v with
    | text s =>
      obtain ⟨rest, hrest, hss⟩ := bind_eq_ok_iff.mp h
      obtain rfl := Except.ok.inj hss
      rw [List.map_cons, ← eq_map_of_textsOf hrest]
    | _ => cases h

/-- **Accepted patterns** are the standard ones, a list of texts, or a tuple. -/
theorem patterns_of_accepted {key : String} {standard : List String}
    (h : (checkPatterns entries key standard).defects = []) :
    let patterns := (checkPatterns entries key standard).value
    patterns = standard.map .text ∨
      entries.lookup key = some (.list patterns) ∧ (∃ ss, textsOf patterns = .ok ss) ∨
      entries.lookup key = some (.tuple patterns) := by
  unfold checkPatterns at h ⊢
  split at h
  · exact Or.inl rfl
  · next items hitems =>
    split at h
    · next ss hss => exact Or.inr (Or.inl ⟨hitems, ss, hss⟩)
    · cases h
  · next items hitems => exact Or.inr (Or.inr hitems)
  · cases h

/-- An accepted name of a report is not empty. -/
theorem formatter_of_accepted (h : (checkFormatter entries).defects = []) :
    (checkFormatter entries).value.isEmpty = false := by
  unfold checkFormatter at h ⊢
  split at h
  · rfl
  · next s _ =>
    cases hs : s.isEmpty with
    | true =>
      rw [hs] at h
      cases h
    | false => exact hs
  · cases h

/-- **Accepted rules** are the rules of the table, and have no defects. -/
theorem checkRules_of_accepted (h : (checkRules entries).defects = []) :
    (checkRules entries).value = rulesIn entries ∧
      ∀ r ∈ rulesIn entries, ruleDefect r.1 r.2 = none := by
  have htable : ∀ rules, entries.lookup "rules" = some (.table rules) →
      (checkRules entries).value = rules ∧ ∀ r ∈ rules, ruleDefect r.1 r.2 = none :=
    fun rules hrules => by
      simp only [checkRules, hrules, List.filterMap_eq_nil_iff] at h ⊢
      exact ⟨List.filter_eq_self.mpr fun r hr => by rw [h r hr]; rfl, h⟩
  cases hrules : entries.lookup "rules" with
  | none => simp only [checkRules, rulesIn, hrules, List.not_mem_nil, false_implies, implies_true,
      and_self]
  | some v =>
    cases v with
    | table rules =>
      obtain ⟨hvalue, hnone⟩ := htable rules hrules
      rw [hvalue]
      simpa only [rulesIn, hrules, true_and] using hnone
    | _ =>
      simp only [checkRules, hrules] at h
      cases h

/-- What is accepted keeps the rules of the table. -/
theorem rules_of_accepted (h : ofValue path (.table entries) = .ok c) :
    c.rules = rulesIn entries ∧ ∀ r ∈ c.rules, ruleDefect r.1 r.2 = none := by
  obtain ⟨_, ⟨rfl⟩, hdefects, rfl⟩ := ofValue_eq_ok_iff.mp h
  obtain ⟨-, -, -, -, hrules⟩ := defects_eq_nil_iff.mp hdefects
  obtain ⟨hvalue, hnone⟩ := checkRules_of_accepted hrules
  rw [hvalue]
  exact ⟨rfl, hnone⟩

end ProseLinter.Config
