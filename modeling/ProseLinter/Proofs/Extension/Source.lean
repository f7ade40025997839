import ProseLinter.Extension.Source
import ProseLinter.Proofs.Json.Data
import ProseLinter.Proofs.Path
import ProseLinter.Proofs.Text.Utf8

/-!
# Proofs/Extension/Source — sources that raise

A line that raises an exception about a power is read as what it is written from
(`Source.raisedBy?_raisingLine`), and so is a source with that line alone
(`Source.program?_raisingSource`).  The power may have more digits than an integer can be written
with, though both numerals are short: then the exception has no text (`Raised.text_int`).
-/

namespace ProseLinter

/-! ## Exceptions about an integer -/

namespace Raised

/-- **An exception about an integer** has the text of the integer, unless there are too many digits
to write. -/
theorem text_int (kind : String) (i : ℤ) :
    text ⟨kind, [.int i]⟩ =
      if Integer.isWritable i then .ok (Integer.text i) else .error .tooManyDigits := by
  have hsystem : systemError? ⟨kind, [.int i]⟩ = none := ite_self none
  have hplain : (Value.int i).plain = (Value.int i).written := rfl
  rw [text, hsystem]
  simp only [grammarText, plainText, hplain, ite_self, Value.written, Value.isWritable]
  rfl

/-- The kinds are made of letters. -/
theorem isAlpha_of_mem_kinds {kind : String} (h : kind ∈ kinds) {c : Char} (hc : c ∈ kind.toList) :
    c.isAlpha = true := by
  have hall : kinds.all (fun kind => kind.toList.all Char.isAlpha) = true := by decide +kernel
  exact List.all_eq_true.mp (List.all_eq_true.mp hall kind h) c hc

end Raised

namespace Source

variable {kind : String} {base exponent : ℕ} {line : List Char} {exception : Raised}

/-! ## Numerals and powers -/

/-- **A number is read from its digits**, if there are few enough of them. -/
theorem numeral?_toDigits {n : ℕ} (h : Integer.isWritable n = true) :
    numeral? (Nat.toDigits 10 n) = some n := by
  simp only [numeral?, Nat.ofDigitChars_ten_toDigits, true_and]
  exact if_pos (Integer.isWritable_iff.mp h)

/-- A character that digits do not have is not in a numeral. -/
theorem not_mem_toDigits {c : Char} (hc : c.isDigit = false) (n : ℕ) : c ∉ Nat.toDigits 10 n :=
  fun h => by
    rw [Nat.isDigit_of_mem_toDigits (by decide) (by decide) h] at hc
    cases hc

/-- A power as it is written. -/
def powerText (base exponent : ℕ) : List Char :=
  Nat.toDigits 10 base ++ '*' :: '*' :: Nat.toDigits 10 exponent

theorem power?_powerText (hbase : Integer.isWritable base = true)
    (hexponent : Integer.isWritable exponent = true) :
    power? (powerText base exponent) = some (base ^ exponent) := by
  have hsplit : Text.splitOn '*' (powerText base exponent) =
      [Nat.toDigits 10 base, [], Nat.toDigits 10 exponent] := by
    rw [powerText, Text.splitOn_append_cons, Text.splitOn_of_not_mem (not_mem_toDigits rfl base),
      ← List.nil_append ('*' :: Nat.toDigits 10 exponent), Text.splitOn_append_cons,
      Text.splitOn_of_not_mem (not_mem_toDigits rfl exponent)]
    rfl
  rw [power?, hsplit]
  simp only [numeral?_toDigits hbase, numeral?_toDigits hexponent]
  rfl

/-! ## Lines -/

/-- The line that raises an exception of a kind about a power. -/
def raisingLine (kind : String) (base exponent : ℕ) : List Char :=
  raiseWord ++ ' ' :: kind.toList ++ '(' :: (powerText base exponent ++ [')'])

theorem raisedBy?_raisingLine (hkind : kind ∈ Raised.kinds)
    (hbase : Integer.isWritable base = true) (hexponent : Integer.isWritable exponent = true) :
    raisedBy? (raisingLine kind base exponent) =
      some (.ofCall kind [.int (base ^ exponent : ℕ)]) := by
  have hletters : ∀ {c : Char}, c.isAlpha = false → c ∉ kind.toList := fun hc h => by
    rw [Raised.isAlpha_of_mem_kinds hkind h] at hc
    cases hc
  have hpower : ∀ {c : Char}, c.isDigit = false → c ≠ '*' → c ∉ powerText base exponent :=
    fun hc hstar h => by
      simp only [powerText, List.mem_append, List.mem_cons, hstar, not_mem_toDigits hc,
        or_false] at h
  have hline : Text.splitOn '(' (raisingLine kind base exponent) =
      [raiseWord ++ ' ' :: kind.toList, powerText base exponent ++ [')']] := by
    rw [raisingLine, Text.splitOn_append_cons, Text.splitOn_of_not_mem, Text.splitOn_of_not_mem]
    · rfl
    · simp [hpower]
    · simp [hletters, raiseWord]
  have hfront : Text.splitOn ' ' (raiseWord ++ ' ' :: kind.toList) = [raiseWord, kind.toList] := by
    rw [Text.splitOn_append_cons, Text.splitOn_of_not_mem (by decide),
      Text.splitOn_of_not_mem (hletters rfl)]
    rfl
  have hback : Text.splitOn ')' (powerText base exponent ++ [')']) =
      [powerText base exponent, []] := by
    rw [Text.splitOn_append_cons, Text.splitOn_of_not_mem (hpower rfl (by decide))]
    rfl
  have hknown : Raised.kinds.contains kind = true := List.contains_iff_mem.mpr hkind
  simp only [raisedBy?, hline, hfront, hback, hknown, true_and, if_true,
    power?_powerText hbase hexponent, Option.map_some, String.ofList_toList]

/-- A character that the line may have in it. -/
def isPlain (c : Char) : Bool := c.isAlphanum || c == ' ' || c == '(' || c == '*' || c == ')'

theorem isPlain_of_mem_raisingLine (hkind : kind ∈ Raised.kinds) {c : Char}
    (hc : c ∈ raisingLine kind base exponent) : isPlain c = true := by
  have hword : raiseWord.all isPlain = true := by rfl
  have hdigit : ∀ {n : ℕ}, c ∈ Nat.toDigits 10 n → isPlain c = true := fun h => by
    simp [isPlain, Char.isAlphanum, Nat.isDigit_of_mem_toDigits (by decide) (by decide) h]
  simp only [raisingLine, powerText, List.mem_append, List.mem_cons, List.not_mem_nil,
    or_false] at hc
  rcases hc with (hc | rfl | hc) | rfl | (hc | rfl | rfl | hc) | rfl
  · exact List.all_eq_true.mp hword c hc
  · rfl
  · simp [isPlain, Char.isAlphanum, Raised.isAlpha_of_mem_kinds hkind hc]
  · rfl
  · exact hdigit hc
  · rfl
  · rfl
  · exact hdigit hc
  · rfl

/-- Plain characters are ASCII. -/
theorem toNat_lt_of_isPlain {c : Char} (h : isPlain c = true) : c.toNat < 0x80 := by
  simp only [isPlain, Char.isAlphanum, Char.isAlpha, Char.isUpper, Char.isLower, Char.isDigit,
    Bool.or_eq_true, Bool.and_eq_true, decide_eq_true_eq, UInt32.le_iff_toNat_le, beq_iff_eq] at h
  rcases h with ((((((⟨-, h⟩ | ⟨-, h⟩) | ⟨-, h⟩) | rfl) | rfl) | rfl) | rfl)
  · exact lt_of_le_of_lt h (by decide)
  · exact lt_of_le_of_lt h (by decide)
  · exact lt_of_le_of_lt h (by decide)
  · decide
  · decide
  · decide
  · decide

/-! ## Sources -/

section

variable {cs : List Char} (hlow : ∀ c ∈ cs, c.toNat < 0x80)

include hlow

/-- ASCII is encoded in one byte for each character… -/
theorem encode_eq_map : Text.encode cs = cs.map fun c => c.toNat.toUInt8 := by
  have hone : ∀ c ∈ cs, Text.encodeChar c = [c.toNat.toUInt8] := fun c hc => if_pos (hlow c hc)
  rw [Text.encode, List.flatMap_congr hone, List.map_eq_flatMap]

/-- …which is a byte of ASCII… -/
theorem all_lt_encode : (Text.encode cs).all (· < 0x80) = true := by
  rw [encode_eq_map hlow, List.all_map, List.all_eq_true]
  intro c hc
  have hbyte := Text.toNat_toUInt8 (lt_trans (hlow c hc) (by decide : 0x80 < 256))
  rw [Function.comp_apply, decide_eq_true_eq, UInt8.lt_iff_toNat_lt, hbyte]
  exact hlow c hc

/-- …and the character by its number. -/
theorem map_charOf_encode : (Text.encode cs).map charOf = cs := by
  rw [encode_eq_map hlow, List.map_map]
  refine (List.map_congr_left fun c hc => ?_).trans (List.map_id cs)
  rw [Function.comp_apply, charOf, Text.toNat_toUInt8 (lt_trans (hlow c hc) (by decide)),
    Char.ofNat_toNat, id]

theorem contains_zero_encode (hzero : '\x00' ∉ cs) : (Text.encode cs).contains 0 = false := by
  rw [encode_eq_map hlow, List.contains_eq_mem, decide_eq_false_iff_not, List.mem_map]
  rintro ⟨c, hc, hbyte⟩
  have hnumber := Text.toNat_toUInt8 (lt_trans (hlow c hc) (by decide : 0x80 < 256))
  rw [hbyte] at hnumber
  exact hzero ((Char.toNat_inj.mp hnumber : '\x00' = c) ▸ hc)

end

/-- A line of plain characters is ASCII. -/
theorem toNat_lt_of_plainLine (hplain : ∀ c ∈ line, isPlain c = true) :
    ∀ c ∈ line ++ ['\n'], c.toNat < 0x80 :=
  List.forall_mem_append.mpr
    ⟨fun c hc => toNat_lt_of_isPlain (hplain c hc), List.forall_mem_singleton.mpr (by decide)⟩

/-- A line is read as it is. -/
theorem linesOf_append_feed (hfeed : '\n' ∉ line) (hreturn : '\r' ∉ line) :
    linesOf (line ++ ['\n']) = [line] := by
  have hfeeds : ∀ {cs : List Char}, '\r' ∉ cs → Text.lineFeeds cs = cs := fun {cs} h => by
    rw [Text.lineFeeds]
    induction cs with
    | nil => rfl
    | cons c cs ih =>
      rw [List.mem_cons, not_or] at h
      simp [Text.lineFeedsFrom, Ne.symm h.1, ih h.2]
  rw [linesOf, hfeeds (by simpa using hreturn), Text.splitOn_append_cons,
    Text.splitOn_of_not_mem hfeed]
  rfl

/-- Without a colon or a sign of equality nothing is declared. -/
theorem declared?_eq_none : ∀ {cs : List Char}, ':' ∉ cs → '=' ∉ cs → declared? cs = none
  | [], _, _ => rfl
  | c :: cs, hcolon, hequals => by
      have hhere : declaredHere? (c :: cs) = none := by
        unfold declaredHere?
        split
        · split
          · next d rest hdrop =>
            have hd : d ∈ c :: cs := List.mem_of_mem_drop (hdrop ▸ List.mem_cons_self)
            refine if_neg ?_
            rintro (rfl | rfl)
            · exact hcolon hd
            · exact hequals hd
          · rfl
        · rfl
      rw [declared?, hhere]
      exact declared?_eq_none (fun h => hcolon (List.mem_cons_of_mem c h))
        fun h => hequals (List.mem_cons_of_mem c h)

/-- **A line that raises is a source** of plain characters. -/
theorem program?_of_raisedBy? (hplain : ∀ c ∈ line, isPlain c = true) (hbusy : kindOf line = .busy)
    (h : raisedBy? line = some exception) :
    program? (Text.encode (line ++ ['\n'])) = some (.raising exception) := by
  have hlow := toNat_lt_of_plainLine hplain
  have hnot : ∀ {c : Char}, isPlain c = false → c ∉ line := fun hc hmem => by
    rw [hplain _ hmem] at hc
    cases hc
  have hlines : linesOf ((Text.encode (line ++ ['\n'])).map charOf) = [line] := by
    rw [map_charOf_encode hlow, linesOf_append_feed (hnot rfl) (hnot rfl)]
  have hbytes := all_lt_encode hlow
  generalize Text.encode (line ++ ['\n']) = data at hlines hbytes
  have hunmarked : byteMark.isPrefixOf data = false := by
    cases data with
    | nil => rfl
    | cons b data =>
      rw [List.all_cons, Bool.and_eq_true, decide_eq_true_eq] at hbytes
      refine Bool.eq_false_iff.mpr fun hmark => ?_
      rw [byteMark, List.isPrefixOf_cons_cons, Bool.and_eq_true, beq_iff_eq] at hmark
      exact absurd hbytes.1 (hmark.1 ▸ by decide)
  have hidle : isIdle data = false := by
    simp [isIdle, hunmarked, hlines, areIdle, hbusy]
  have hdeclared : declaredIn? [line] = none := by
    rw [declaredIn?, declared?_eq_none (hnot rfl) (hnot rfl)]
    exact if_neg (by rw [hbusy]; decide)
  have hraised : raised? data = some exception := by
    simp [raised?, hlines, hbytes, hdeclared, hbusy, h]
  rw [program?, hidle, hraised]
  rfl

/-- The source with the line that raises an exception of a kind about a power. -/
def raisingSource (kind : String) (base exponent : ℕ) : List UInt8 :=
  Text.encode (raisingLine kind base exponent ++ ['\n'])

/-- No byte of the source is zero. -/
theorem contains_zero_raisingSource (hkind : kind ∈ Raised.kinds) (base exponent : ℕ) :
    (raisingSource kind base exponent).contains 0 = false := by
  have hplain : ∀ c ∈ raisingLine kind base exponent, isPlain c = true :=
    fun _ hc => isPlain_of_mem_raisingLine hkind hc
  refine contains_zero_encode (toNat_lt_of_plainLine hplain) fun hmem => ?_
  rcases List.mem_append.mp hmem with hmem | hmem
  · exact absurd (hplain _ hmem) (by decide)
  · exact absurd (List.mem_singleton.mp hmem) (by decide)

/-- **A source that raises** is read as the program that raises the exception, of whatever kind and
about whatever power. -/
theorem program?_raisingSource (hkind : kind ∈ Raised.kinds)
    (hbase : Integer.isWritable base = true) (hexponent : Integer.isWritable exponent = true) :
    program? (raisingSource kind base exponent) =
      some (.raising (.ofCall kind [.int (base ^ exponent : ℕ)])) :=
  program?_of_raisedBy? (fun _ hc => isPlain_of_mem_raisingLine hkind hc) rfl
    (raisedBy?_raisingLine hkind hbase hexponent)

end Source

end ProseLinter
