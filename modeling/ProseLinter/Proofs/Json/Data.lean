import ProseLinter.Proofs.Json.Writer
import ProseLinter.Proofs.Outcome
import ProseLinter.Value.Show

/-!
# Proofs/Json/Data — data that JSON keeps

Values made of nothing, booleans, integers, texts, lists and tables with distinct keys are **data**
(`Value.IsData`).  Data has a JSON form exactly if its integers have few enough digits
(`Value.IsData.toJson_isOk_iff`), and the text of that form is all that is needed to get the data
back, with any reader (`Json.IsTextOf.read`).
-/

namespace ProseLinter

/-- **An integer can be written** if it has few enough digits. -/
theorem Integer.isWritable_iff {i : ℤ} :
    isWritable i = true ↔ (Nat.toDigits 10 i.natAbs).length ≤ maxDigits := by
  rw [isWritable, decide_eq_true_iff, Nat.pow_eq,
    Nat.length_toDigits_le_iff (by decide) (by decide)]

/-- The least number with too many digits. -/
def Integer.tooLong : ℤ := (10 ^ maxDigits : ℕ)

theorem Integer.isWritable_tooLong : isWritable tooLong = false := by
  simp only [isWritable, tooLong, Nat.pow_eq, Int.natAbs_natCast, lt_self_iff_false, decide_false]

mutual
/-- **The value** that a JSON value stands for. -/
def Json.toValue : Json → Value
  | .null => .none
  | .bool b => .bool b
  | .int i => .int i
  | .float x => .float x
  | .text s => .text s
  | .array items => .list (Json.toValues items)
  | .object members => .table (Json.toEntries members)
def Json.toValues : List Json → List Value
  | [] => []
  | j :: js => j.toValue :: Json.toValues js
def Json.toEntries : List (String × Json) → List (String × Value)
  | [] => []
  | (k, j) :: ms => (k, j.toValue) :: Json.toEntries ms
end

/-! ## Items and entries, one by one -/

namespace Json

theorem toValues_eq_map (js : List Json) : toValues js = js.map toValue := by
  induction js with
  | nil => rfl
  | cons j js ih => rw [toValues, ih, List.map_cons]

theorem toEntries_eq_map (ms : List (String × Json)) :
    toEntries ms = ms.map fun m => (m.1, m.2.toValue) := by
  induction ms with
  | nil => rfl
  | cons m ms ih => rw [toEntries, ih, List.map_cons]

theorem arePortable_iff {js : List Json} :
    arePortable js = true ↔ ∀ j ∈ js, j.isPortable = true := by
  induction js with
  | nil => simp [arePortable]
  | cons j js ih => rw [arePortable, Bool.and_eq_true, ih, List.forall_mem_cons]

theorem membersArePortable_iff {ms : List (String × Json)} :
    membersArePortable ms = true ↔ ∀ m ∈ ms, m.2.isPortable = true := by
  induction ms with
  | nil => simp [membersArePortable]
  | cons m ms ih => rw [membersArePortable, Bool.and_eq_true, ih, List.forall_mem_cons]

end Json

namespace Value

theorem areWritable_iff {vs : List Value} :
    areWritable vs = true ↔ ∀ v ∈ vs, v.isWritable = true := by
  induction vs with
  | nil => simp [areWritable]
  | cons v vs ih => rw [areWritable, Bool.and_eq_true, ih, List.forall_mem_cons]

theorem entriesAreWritable_iff {es : List (String × Value)} :
    entriesAreWritable es = true ↔ ∀ e ∈ es, e.2.isWritable = true := by
  induction es with
  | nil => simp [entriesAreWritable]
  | cons e es ih => rw [entriesAreWritable, Bool.and_eq_true, ih, List.forall_mem_cons]

/-! The JSON form step by step. -/

theorem toJson_text (s : String) : (text s).toJson = pure (.text s) := rfl

theorem toJson_list (vs : List Value) :
    (list vs).toJson = do return .array (← toJsonItems vs) := by
  rw [toJson]
  rfl

theorem toJson_table (es : List (String × Value)) :
    (table es).toJson = do return .object (← toJsonEntries es) := by
  rw [toJson]
  rfl

theorem toJsonItems_nil : toJsonItems [] = pure [] := rfl

theorem toJsonItems_cons (v : Value) (vs : List Value) :
    toJsonItems (v :: vs) = do return (← v.toJson) :: (← toJsonItems vs) := rfl

theorem toJsonEntries_nil : toJsonEntries [] = pure [] := rfl

theorem toJsonEntries_cons (k : String) (v : Value) (es : List (String × Value)) :
    toJsonEntries ((k, v) :: es) = do return (k, ← v.toJson) :: (← toJsonEntries es) := rfl

theorem toJsonItems_eq_mapM (vs : List Value) : toJsonItems vs = vs.mapM toJson := by
  induction vs with
  | nil => rfl
  | cons v vs ih => rw [toJsonItems, List.mapM_cons, ih]

theorem toJsonEntries_eq_mapM (es : List (String × Value)) :
    toJsonEntries es = es.mapM fun e => do return (e.1, ← e.2.toJson) := by
  induction es with
  | nil => rfl
  | cons e es ih => rw [toJsonEntries, List.mapM_cons, ih]; cases e.2.toJson <;> rfl

/-- The items of a list have JSON forms one by one… -/
theorem toJson_list_eq_ok_iff {vs : List Value} {j : Json} : (list vs).toJson = .ok j ↔
    ∃ js, List.Forall₂ (fun v j => v.toJson = .ok j) vs js ∧ .array js = j := by
  rw [toJson, map_eq_ok_iff, toJsonItems_eq_mapM]
  simp only [mapM_eq_ok_iff]

/-- …and so have the entries of a table. -/
theorem toJson_table_eq_ok_iff {es : List (String × Value)} {j : Json} : (table es).toJson = .ok j ↔
    ∃ ms, List.Forall₂ (fun e m => e.1 = m.1 ∧ e.2.toJson = .ok m.2) es ms ∧ .object ms = j := by
  have hentry : ∀ (e : String × Value) (m : String × Json),
      (do return (e.1, ← e.2.toJson)) = Except.ok m ↔ e.1 = m.1 ∧ e.2.toJson = .ok m.2 := by
    intro e m
    rw [bind_eq_ok_iff]
    constructor
    · rintro ⟨j, hj, h⟩
      cases h
      exact ⟨rfl, hj⟩
    · rintro ⟨hk, hj⟩
      exact ⟨m.2, hj, by rw [hk]; rfl⟩
  rw [toJson, map_eq_ok_iff, toJsonEntries_eq_mapM]
  simp only [mapM_eq_ok_iff, hentry]

/-! ## Data -/

/-- **Data**: what JSON has a form for, without numbers with a fraction. -/
inductive IsData : Value → Prop
  | none : IsData .none
  | bool (b : Bool) : IsData (.bool b)
  | int (i : ℤ) : IsData (.int i)
  | text (s : String) : IsData (.text s)
  | list {items : List Value} : (∀ v ∈ items, IsData v) → IsData (.list items)
  | table {entries : List (String × Value)} : (entries.map (·.1)).Nodup →
      (∀ e ∈ entries, IsData e.2) → IsData (.table entries)

/-- **The JSON form of data keeps it**, and only what can be written has one. -/
theorem IsData.of_toJson {v : Value} (h : IsData v) :
    ∀ {j}, v.toJson = .ok j → j.isPortable = true ∧ j.toValue = v ∧ v.isWritable = true := by
  induction h with
  | none => rintro _ ⟨⟩; exact ⟨rfl, rfl, rfl⟩
  | bool b => rintro _ ⟨⟩; exact ⟨rfl, rfl, rfl⟩
  | text s => rintro _ ⟨⟩; exact ⟨rfl, rfl, rfl⟩
  | int i =>
    intro j hj
    rw [toJson] at hj
    split at hj
    · next hi =>
      cases hj
      exact ⟨by rw [Json.isPortable, hi], rfl, by rw [isWritable, hi]⟩
    · cases hj
  | @list items _ ih =>
    intro j hj
    obtain ⟨js, hjs, rfl⟩ := toJson_list_eq_ok_iff.mp hj
    have hvalues : items.map id = js.map Json.toValue :=
      map_eq_of_forall₂ hjs fun v hv k hvk => (ih v hv hvk).2.1.symm
    refine ⟨Json.arePortable_iff.mpr fun k hk => ?_, ?_, areWritable_iff.mpr fun v hv => ?_⟩
    · obtain ⟨v, hv, hvk⟩ := forall₂_right hjs k hk
      exact (ih v hv hvk).1
    · rw [Json.toValue, Json.toValues_eq_map, ← hvalues, List.map_id]
    · obtain ⟨k, -, hvk⟩ := forall₂_left hjs v hv
      exact (ih v hv hvk).2.2
  | @table entries hkeys _ ih =>
    intro j hj
    obtain ⟨ms, hms, rfl⟩ := toJson_table_eq_ok_iff.mp hj
    have hnames : entries.map (·.1) = ms.map (·.1) :=
      map_eq_of_forall₂ hms fun e _ m hem => hem.1
    have hentries : entries.map id = ms.map fun m => (m.1, m.2.toValue) :=
      map_eq_of_forall₂ hms fun e he m hem => Prod.ext hem.1 (ih e he hem.2).2.1.symm
    refine ⟨?_, ?_, entriesAreWritable_iff.mpr fun e he => ?_⟩
    · rw [Json.isPortable, ← hnames, Bool.and_eq_true, decide_eq_true_iff]
      refine ⟨hkeys, Json.membersArePortable_iff.mpr fun m hm => ?_⟩
      obtain ⟨e, he, hem⟩ := forall₂_right hms m hm
      exact (ih e he hem.2).1
    · rw [Json.toValue, Json.toEntries_eq_map, ← hentries, List.map_id]
    · obtain ⟨m, -, hem⟩ := forall₂_left hms e he
      exact (ih e he hem.2).2.2

/-- Data that can be written has a JSON form. -/
theorem IsData.exists_toJson {v : Value} (h : IsData v) (hwritable : v.isWritable = true) :
    ∃ j, v.toJson = .ok j := by
  induction h with
  | none => exact ⟨_, rfl⟩
  | bool b => exact ⟨_, rfl⟩
  | text s => exact ⟨_, rfl⟩
  | int i =>
    rw [isWritable] at hwritable
    exact ⟨.int i, by rw [toJson, if_pos hwritable]⟩
  | @list items _ ih =>
    obtain ⟨js, hjs⟩ := exists_forall₂ fun v hv => ih v hv (areWritable_iff.mp hwritable v hv)
    exact ⟨.array js, toJson_list_eq_ok_iff.mpr ⟨js, hjs, rfl⟩⟩
  | @table entries _ _ ih =>
    have hmembers : ∀ e ∈ entries, ∃ m : String × Json, e.1 = m.1 ∧ e.2.toJson = .ok m.2 :=
      fun e he => by
        obtain ⟨j, hj⟩ := ih e he (entriesAreWritable_iff.mp hwritable e he)
        exact ⟨(e.1, j), rfl, hj⟩
    obtain ⟨ms, hms⟩ := exists_forall₂ hmembers
    exact ⟨.object ms, toJson_table_eq_ok_iff.mpr ⟨ms, hms, rfl⟩⟩

/-- **Data has a JSON form** exactly if it can be written. -/
theorem IsData.toJson_isOk_iff {v : Value} (h : IsData v) :
    (∃ j, v.toJson = .ok j) ↔ v.isWritable = true :=
  ⟨fun ⟨_, hj⟩ => (h.of_toJson hj).2.2, h.exists_toJson⟩

end Value

/-! ## Texts of data -/

namespace Json

/-- A text of JSON from which readers get a value. -/
def IsTextOf (cs : List Char) (v : Value) : Prop :=
  ∃ j, Spells cs j ∧ j.isPortable = true ∧ j.toValue = v

/-- **Every reader gets the value** from its text. -/
theorem IsTextOf.read {cs : List Char} {v : Value} (h : IsTextOf cs v)
    {read : List Char → Option Json} (hread : IsReader read) :
    (read cs).map toValue = some v := by
  obtain ⟨j, hspells, hportable, rfl⟩ := h
  rw [hread cs j hportable hspells]
  rfl

/-- A text is the text of one value. -/
theorem IsTextOf.unique {cs : List Char} {v v' : Value} (h : IsTextOf cs v)
    (h' : IsTextOf cs v') : v = v' :=
  Option.some.inj ((h.read isReader_read).symm.trans (h'.read isReader_read))

/-- **What is written of data** is a text of it. -/
theorem isTextOf_write {v : Value} (h : v.IsData) {j : Json} (hj : v.toJson = .ok j)
    (spacing : Spacing) : IsTextOf (write spacing j) v := by
  obtain ⟨hportable, hvalue, -⟩ := h.of_toJson hj
  exact ⟨j, spells_write spacing hportable, hportable, hvalue⟩

end Json

end ProseLinter
