import ProseLinter.Layout.Reporter
import ProseLinter.Proofs.Json.Data

/-!
# Proofs/Layout/Lossless — reports in JSON lose nothing

The json layouts write the tables that results stand for (`Results.toDicts`).  With messages and
fixes of plain texts and integers, a report is written exactly if its integers are not too long, and
then every reader gets the tables back from it (`Reporter.format_json`).
-/

namespace ProseLinter

/-! ## Results as tables -/

/-- **A message as a table**, with the fix if there is one. -/
def LintMessage.toDict (m : LintMessage) : Value :=
  .table
    ([("ruleId", .text m.ruleId), ("message", m.message), ("index", .int m.index),
        ("line", .int m.line), ("column", .int m.column), ("severity", .text m.severity.name)] ++
      (m.fix.map fun e =>
        ("fix", .table [("range", .list [e.start, e.stop]), ("text", e.text)])).toList)

/-- The results for a file as a table. -/
def LintResult.toDict (r : LintResult) : Value :=
  .table [("filePath", .text r.path), ("messages", .list (r.messages.map LintMessage.toDict))]

/-- What fixing a file came to as a table. -/
def FixResult.toDict (r : FixResult) : Value :=
  .table
    [ ("filePath", .text r.path), ("output", .text (String.ofList r.output)),
      ("messages", .list (r.messages.map LintMessage.toDict)),
      ("applyingMessages", .list (r.applied.map LintMessage.toDict)),
      ("remainingMessages", .list (r.remaining.map LintMessage.toDict)) ]

namespace Results

/-- **Results as tables**, one for each file. -/
def toDicts : Results → List Value
  | lint rs => rs.map LintResult.toDict
  | fix rs => rs.map FixResult.toDict

/-- The layout that writes results in JSON. -/
def jsonReporter : Results → Reporter
  | lint _ => .json
  | fix _ => .fixJson

end Results

/-! ## What is written are the tables -/

open Value (toJson_table toJson_list toJson_text toJsonItems_cons toJsonItems_nil
  toJsonEntries_cons toJsonEntries_nil)

/-- The JSON form of a message is that of its table. -/
theorem LintMessage.toJson_toDict (m : LintMessage) : m.toDict.toJson = m.toJson := by
  rw [toDict, toJson, toJson_table]
  cases m.fix with
  | none =>
    simp only [Option.map_none, Option.toList_none, List.append_nil, toJsonEntries_cons,
      toJsonEntries_nil, toJson_text, bind_assoc, pure_bind]
  | some e =>
    simp only [Option.map_some, Option.toList_some, List.cons_append, List.nil_append,
      toJsonEntries_cons, toJsonEntries_nil, toJsonItems_cons, toJsonItems_nil, toJson_table,
      toJson_list, toJson_text, bind_assoc, pure_bind]

/-- What is written item by item is the list of the tables of the items. -/
theorem toJsonItems_map {α : Type} {toDict : α → Value} {toJson : α → Except ValueFault Json}
    (toJsonAll : List α → Except ValueFault (List Json)) (h : ∀ a, (toDict a).toJson = toJson a)
    (hnil : toJsonAll [] = .ok [])
    (hcons : ∀ a as, toJsonAll (a :: as) = do return (← toJson a) :: (← toJsonAll as))
    (as : List α) :
    toJsonItems (as.map toDict) = toJsonAll as := by
  induction as with
  | nil => exact hnil.symm
  | cons a as ih => rw [List.map_cons, toJsonItems_cons, h, ih, hcons]

theorem LintMessage.toJsonItems_toDict (ms : List LintMessage) :
    toJsonItems (ms.map toDict) = toJsonAll ms :=
  toJsonItems_map toJsonAll toJson_toDict rfl (fun _ _ => rfl) ms

theorem LintResult.toJson_toDict (r : LintResult) : r.toDict.toJson = r.toJson := by
  simp only [toDict, toJson, toJson_table, toJson_list, toJson_text, toJsonEntries_cons,
    toJsonEntries_nil, LintMessage.toJsonItems_toDict, bind_assoc, pure_bind]

theorem FixResult.toJson_toDict (r : FixResult) : r.toDict.toJson = r.toJson := by
  simp only [toDict, toJson, toJson_table, toJson_list, toJson_text, toJsonEntries_cons,
    toJsonEntries_nil, LintMessage.toJsonItems_toDict, bind_assoc, pure_bind]

/-- **The json layouts write the tables** of the results, in any colours. -/
theorem Reporter.format_jsonReporter (results : Results) (colors : Bool) :
    results.jsonReporter.format colors results =
      (Value.list results.toDicts).toJson.map (Json.write .indented) := by
  rw [toJson_list]
  cases results with
  | lint rs =>
    rw [Results.toDicts, toJsonItems_map LintResult.toJsonAll LintResult.toJson_toDict rfl fun _ _ => rfl]
    cases hrs : LintResult.toJsonAll rs <;>
      simp only [Results.jsonReporter, format, formatWith, Layout.jsonText, hrs] <;> rfl
  | fix rs =>
    rw [Results.toDicts, toJsonItems_map FixResult.toJsonAll FixResult.toJson_toDict rfl fun _ _ => rfl]
    cases hrs : FixResult.toJsonAll rs <;>
      simp only [Results.jsonReporter, format, formatWith, Layout.fixJsonText, hrs] <;> rfl

/-! ## Plain results -/

/-- The message is a text, and a fix is a text for a range of integers. -/
def LintMessage.IsPlain (m : LintMessage) : Prop :=
  (∃ s, m.message = .text s) ∧
    ∀ e, m.fix = some e → ∃ start stop s, e = ⟨.int start, .int stop, .text s⟩

/-- **All messages are plain.** -/
def Results.ArePlain : Results → Prop
  | .lint rs => ∀ r ∈ rs, ∀ m ∈ r.messages, m.IsPlain
  | .fix rs => ∀ r ∈ rs, ∀ m ∈ r.messages ++ r.applied ++ r.remaining, m.IsPlain

open Value (IsData)

/-- A plain message is data… -/
theorem LintMessage.isData_toDict {m : LintMessage} (h : m.IsPlain) : m.toDict.IsData := by
  obtain ⟨⟨s, hs⟩, hfix⟩ := h
  rw [toDict, hs]
  cases hm : m.fix with
  | none => exact .table (by simp) (by simp [IsData.text, IsData.int])
  | some e =>
    obtain ⟨start, stop, t, rfl⟩ := hfix e hm
    have hrange : (Value.list [.int start, .int stop]).IsData := .list (by simp [IsData.int])
    have hedit :
        (Value.table [("range", .list [.int start, .int stop]), ("text", .text t)]).IsData :=
      .table (by simp) (by simp [IsData.text, hrange])
    exact .table (by simp) (by simp [IsData.text, IsData.int, hedit])

/-- …and so are several. -/
theorem LintMessage.isData_toDicts {ms : List LintMessage} (h : ∀ m ∈ ms, m.IsPlain) :
    (Value.list (ms.map toDict)).IsData :=
  .list (List.forall_mem_map.mpr fun m hm => isData_toDict (h m hm))

/-- **Plain results are data.** -/
theorem Results.isData_toDicts {results : Results} (h : results.ArePlain) :
    (Value.list results.toDicts).IsData := by
  refine .list ?_
  cases results with
  | lint rs =>
    refine List.forall_mem_map.mpr fun r hr => ?_
    have hms := LintMessage.isData_toDicts (h r hr)
    exact .table (by simp) (by simp [IsData.text, hms])
  | fix rs =>
    refine List.forall_mem_map.mpr fun r hr => ?_
    obtain ⟨hshown, hremaining⟩ := List.forall_mem_append.mp (h r hr)
    obtain ⟨hmessages, happlied⟩ := List.forall_mem_append.mp hshown
    have hms := LintMessage.isData_toDicts hmessages
    have happlied := LintMessage.isData_toDicts happlied
    have hremaining := LintMessage.isData_toDicts hremaining
    exact .table (by simp) (by simp [IsData.text, hms, happlied, hremaining])

namespace Reporter

variable {results : Results} {colors : Bool} {cs : List Char}

/-- What is written of plain results is a text of their tables. -/
theorem isTextOf_format (h : results.ArePlain)
    (hcs : results.jsonReporter.format colors results = .ok cs) :
    Json.IsTextOf cs (.list results.toDicts) := by
  rw [format_jsonReporter, map_eq_ok_iff] at hcs
  obtain ⟨j, hj, rfl⟩ := hcs
  exact Json.isTextOf_write (Results.isData_toDicts h) hj .indented

/-- **Reports in JSON lose nothing.**  Plain results have a report exactly if their integers have few
enough digits; it is a text of ASCII, every reader gets the tables of the results back from it, and
no results with other tables have the same report. -/
theorem format_json (h : results.ArePlain) (colors : Bool) :
    ((∃ cs, results.jsonReporter.format colors results = .ok cs) ↔
        (Value.list results.toDicts).isWritable = true) ∧
      ∀ cs, results.jsonReporter.format colors results = .ok cs →
        (∀ c ∈ cs, c.toNat < 128) ∧
        (∃ j, Json.Spells cs j ∧ j.toValue = .list results.toDicts) ∧
        (∀ read, Json.IsReader read → (read cs).map Json.toValue = some (.list results.toDicts)) ∧
        ∀ (others : Results) (colors' : Bool), others.ArePlain →
          others.jsonReporter.format colors' others = .ok cs →
            others.toDicts = results.toDicts := by
  have hdata := Results.isData_toDicts h
  refine ⟨?_, fun cs hcs => ?_⟩
  · rw [← hdata.toJson_isOk_iff, format_jsonReporter]
    simp only [map_eq_ok_iff]
    exact ⟨fun ⟨_, j, hj, _⟩ => ⟨j, hj⟩, fun ⟨j, hj⟩ => ⟨_, j, hj, rfl⟩⟩
  · have htext := isTextOf_format h hcs
    refine ⟨fun c hc => ?_, htext.imp fun j hj => ⟨hj.1, hj.2.2⟩, fun read => htext.read,
      fun others colors' hothers hsame => ?_⟩
    · rw [format_jsonReporter, map_eq_ok_iff] at hcs
      obtain ⟨j, -, rfl⟩ := hcs
      exact Json.lt_of_isPrinted (List.all_eq_true.mp (Json.all_isPrinted_write .indented j) c hc)
    · exact Value.list.inj ((isTextOf_format hothers hsame).unique htext)

/-- A message with characters of several lengths, a place before the text, and a fix. -/
def shown (index : ℤ) : Results :=
  .lint [⟨"a", [⟨"r", .text "é\n😀", index, 1, 1, .error, some ⟨.int 0, .int 1, .text "\""⟩⟩]⟩]

theorem arePlain_shown (index : ℤ) : (shown index).ArePlain := by
  intro r hr m hm
  obtain rfl := List.mem_singleton.mp hr
  obtain rfl := List.mem_singleton.mp hm
  exact ⟨⟨_, rfl⟩, fun e he => ⟨0, 1, "\"", (Option.some.inj he).symm⟩⟩

theorem isWritable_shown (index : ℤ) :
    (Value.list (shown index).toDicts).isWritable = Integer.isWritable index := by
  have hzero : Integer.isWritable 0 = true := Integer.isWritable_iff.mpr (by decide)
  have hone : Integer.isWritable 1 = true := Integer.isWritable_iff.mpr (by decide)
  simp [shown, Results.toDicts, LintResult.toDict, LintMessage.toDict, Value.isWritable,
    Value.areWritable, Value.entriesAreWritable, hzero, hone]

/-- The tables of the results are read back. -/
theorem format_json_shown :
    (shown (-1)).ArePlain ∧
      ∃ cs, (shown (-1)).jsonReporter.format true (shown (-1)) = .ok cs ∧
        (Json.read cs).map Json.toValue = some (.list (shown (-1)).toDicts) := by
  have hwritable : (Value.list (shown (-1)).toDicts).isWritable = true := by
    rw [isWritable_shown]
    exact Integer.isWritable_iff.mpr (by decide)
  obtain ⟨hok, hreport⟩ := format_json (arePlain_shown (-1)) true
  obtain ⟨cs, hcs⟩ := hok.mpr hwritable
  exact ⟨arePlain_shown (-1), cs, hcs, (hreport cs hcs).2.2.1 Json.read Json.isReader_read⟩

/-- **A place with too many digits** has no report. -/
theorem format_json_tooLong :
    (shown Integer.tooLong).ArePlain ∧
      (shown Integer.tooLong).jsonReporter.format false (shown Integer.tooLong) =
        .error .tooManyDigits := by
  refine ⟨arePlain_shown _, ?_⟩
  have hindex : (Value.int Integer.tooLong).toJson = throw .tooManyDigits := by
    rw [Value.toJson, if_neg (by rw [Integer.isWritable_tooLong]; decide)]
    rfl
  have hthrow : ∀ {α β : Type} (f : α → Except ValueFault β),
      (throw .tooManyDigits >>= f) = throw .tooManyDigits := fun _ => rfl
  rw [format_jsonReporter]
  simp only [shown, Results.toDicts, LintResult.toDict, LintMessage.toDict, List.map_cons,
    List.cons_append, toJson_list, toJson_table, toJson_text, toJsonItems_cons, toJsonEntries_cons,
    hindex, pure_bind, hthrow]
  rfl

end Reporter

end ProseLinter
