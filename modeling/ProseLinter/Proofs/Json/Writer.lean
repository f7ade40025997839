import ProseLinter.Json.Writer
import ProseLinter.Proofs.Json.Reader

/-!
# Proofs/Json/Writer — what is written is JSON

The text of a value spells the value (`Json.spells_write`), whichever way its items are set out, and
is made of printable ASCII characters and line feeds (`Json.all_isPrinted_write`).
-/

namespace ProseLinter

/-! ## Numbers -/

namespace Text

/-- A digit has its value back. -/
theorem hexValue?_digitChar {d : ℕ} (h : d < 16) : hexValue? (Nat.digitChar d) = some d := by
  decide +revert

/-- **Digits in base sixteen are read back.** -/
theorem readHex?_toDigits (n : ℕ) : readHex? (Nat.toDigits 16 n) = some n := by
  induction n using Nat.strong_induction_on with
  | _ n ih =>
    rw [Nat.toDigits_eq_if (by decide)]
    split
    · next h => simp [readHex?, hexValue?_digitChar h]
    · next h =>
      have hfirst := ih (n / 16) (Nat.div_lt_self (by omega) (by decide))
      rw [readHex?] at hfirst ⊢
      rw [List.foldlM_append, hfirst]
      simp [hexValue?_digitChar (Nat.mod_lt n (by decide : 0 < 16))]
      omega

/-- Zeros in front change nothing. -/
theorem readHex?_hex (width n : ℕ) : readHex? (hex width n) = some n := by
  have hzeros : ∀ k, List.foldlM (fun n c => (hexValue? c).map (n * 16 + ·)) 0
      (List.replicate k '0') = some 0 := fun k => by
    induction k with
    | zero => rfl
    | succ k ih => 
      rw [List.replicate_succ, List.foldlM_cons]
      exact ih
  rw [hex, readHex?, List.foldlM_append, hzeros]
  exact readHex?_toDigits n

/-- Numbers of sixteen bits have four digits. -/
theorem length_hex_four {n : ℕ} (h : n < 0x10000) : (hex 4 n).length = 4 := by
  have hle : (Nat.toDigits 16 n).length ≤ 4 :=
    (Nat.length_toDigits_le_iff (by decide) (by decide)).mpr h
  simp [hex]
  omega

end Text

namespace Json

theorem isUnit_hex {n : ℕ} (h : n < 0x10000) : IsUnit (Text.hex 4 n) n :=
  ⟨Text.length_hex_four h, Text.readHex?_hex 4 n⟩

/-- A number other than zero starts with another digit. -/
theorem head?_toDigits {n : ℕ} (h : n ≠ 0) : (Nat.toDigits 10 n).head? ≠ some '0' := by
  induction n using Nat.strong_induction_on with
  | _ n ih =>
    rw [Nat.toDigits_eq_if (by decide)]
    split
    · next hlt =>
      have hdigit : ∀ d < 10, d ≠ 0 → [Nat.digitChar d].head? ≠ some '0' := by decide
      exact hdigit n hlt h
    · next hlt =>
      rw [List.head?_append_of_ne_nil _ Nat.toDigits_ne_nil]
      exact ih (n / 10) (Nat.div_lt_self (by omega) (by decide)) (by omega)

theorem isNumeral_toDigits (n : ℕ) : IsNumeral (Nat.toDigits 10 n) n where
  digits _ hd := Nat.isDigit_of_mem_toDigits (by decide : 0 < 10) (by decide) hd
  ne_nil := Nat.toDigits_ne_nil
  first h := by
    by_cases hn : n = 0
    · rw [hn]
      rfl
    · exact absurd h (head?_toDigits hn)
  value := Nat.ofDigitChars_ten_toDigits

/-- **An integer is spelled** by its text. -/
theorem spellsInt_text (i : ℤ) : SpellsInt (Integer.text i) i := by
  rw [Integer.text]
  split
  · next h =>
    have hspells := SpellsInt.negative (isNumeral_toDigits i.natAbs)
    rwa [show -(i.natAbs : ℤ) = i by omega] at hspells
  · next h =>
    have hspells := SpellsInt.plain (isNumeral_toDigits i.natAbs)
    rwa [show (i.natAbs : ℤ) = i by omega] at hspells

/-! ## Texts -/

/-- **A character is spelled** by its escape. -/
theorem spellsChar_escape (c : Char) : SpellsChar (escape c) c := by
  have hshorthand : ∀ {e d : Char}, c = d → (e, d) ∈ shorthands → SpellsChar ['\\', e] c :=
    fun hc he => hc ▸ .shorthand he
  have hvalid : c.toNat < 0xD800 ∨ 0xDFFF < c.toNat ∧ c.toNat < 0x110000 := c.valid
  simp only [escape]
  split_ifs with hquote hback hline hreturn htab h8 h12 hplain hshort
  · exact hshorthand hquote (by decide)
  · exact hshorthand hback (by decide)
  · exact hshorthand hline (by decide)
  · exact hshorthand hreturn (by decide)
  · exact hshorthand htab (by decide)
  · exact hshorthand (d := '\x08') (Char.toNat_inj.mp h8) (by decide)
  · exact hshorthand (d := '\x0c') (Char.toNat_inj.mp h12) (by decide)
  · exact .itself hplain.1 hquote hback
  · exact .unit (isUnit_hex hshort)
  · exact .pair (isUnit_hex (by omega)) (isUnit_hex (by omega)) (by omega) (by omega) (by omega)
      (by omega) (by omega)

/-- **A text is spelled** by its quoted form. -/
theorem bare_quote (s : String) : Bare (quote s.toList) (.text s) := by
  have hchars : ∀ cs : List Char, SpellsChars (cs.flatMap escape) cs := fun cs => by
    induction cs with
    | nil => exact .nil
    | cons c cs ih => exact .cons (spellsChar_escape c) ih
  exact .text (hchars s.toList)

/-! ## Values -/

theorem Bare.spells {cs : List Char} {j : Json} (h : Bare cs j) : Spells cs j := by
  have hspells := @Spells.mk [] cs [] j rfl h rfl
  rwa [List.nil_append, List.append_nil] at hspells

/-- Blanks may be added on both sides. -/
theorem Spells.pad {b cs d : List Char} {j : Json} (hb : b.all isBlank = true) (h : Spells cs j)
    (hd : d.all isBlank = true) : Spells (b ++ cs ++ d) j := by
  cases h with
  | @mk before bare after _ hbefore hbare hafter =>
    have hspells := @Spells.mk (b ++ before) bare (after ++ d) j (by simp [hb, hbefore]) hbare
      (by simp [hafter, hd])
    simpa only [List.append_assoc] using hspells

theorem IsMember.pad {b cs d : List Char} {m : String × Json} (hb : b.all isBlank = true)
    (h : IsMember Spells cs m) (hd : d.all isBlank = true) :
    IsMember Spells (b ++ cs ++ d) m := by
  cases h with
  | @mk ks vs k j hk hj =>
    have hmember := IsMember.mk (hk.pad hb (d := []) rfl) (hj.pad (b := []) rfl hd)
    simpa only [List.append_assoc, List.nil_append, List.cons_append, List.append_nil]
      using hmember

theorem blank_before (spacing : Spacing) (depth : ℕ) :
    (spacing.before depth).all isBlank = true := by
  cases spacing with
  | inline => rfl
  | indented => simp [Spacing.before, isBlank]

/-- What stands between two items is a comma and blanks. -/
theorem exists_between (spacing : Spacing) (depth : ℕ) :
    ∃ gap, spacing.between depth = ',' :: gap ∧ gap.all isBlank = true := by
  cases spacing with
  | inline => exact ⟨[' '], rfl, rfl⟩
  | indented => exact ⟨_, rfl, blank_before .indented depth⟩

section

variable {α : Type} {P : List Char → α → Prop}

/-- **Pieces are listed** with blanks around them and after the commas. -/
theorem listed_join
    (hpad : ∀ {b cs d a}, b.all isBlank = true → P cs a → d.all isBlank = true →
      P (b ++ cs ++ d) a)
    {gap after : List Char} (hgap : gap.all isBlank = true) (hafter : after.all isBlank = true)
    {parts : List (List Char)} {as : List α} (h : List.Forall₂ P parts as) (hne : as ≠ [])
    {before : List Char} (hbefore : before.all isBlank = true) :
    Listed P (before ++ Text.join (',' :: gap) parts ++ after) as := by
  induction h generalizing before with
  | nil => exact absurd rfl hne
  | @cons p a parts as hp hrest ih =>
    cases hrest with
    | nil => exact .last (hpad hbefore hp hafter)
    | @cons q b parts as hq hrest =>
      have hlisted := Listed.next (hpad hbefore hp (d := []) rfl) (ih (by simp) hgap)
      simpa only [Text.join_cons_cons, List.append_assoc, List.nil_append, List.cons_append]
        using hlisted

/-- **What stands between brackets** is listed. -/
theorem exists_bracketed
    (hpad : ∀ {b cs d a}, b.all isBlank = true → P cs a → d.all isBlank = true →
      P (b ++ cs ++ d) a)
    (spacing : Spacing) (depth : ℕ) (opening closing : Char) {parts : List (List Char)}
    {as : List α} (h : List.Forall₂ P parts as) :
    ∃ cs, bracketed spacing depth opening closing parts = opening :: cs ++ [closing] ∧
      Listed P cs as := by
  cases h with
  | nil => exact ⟨[], rfl, .none rfl⟩
  | cons hp hrest =>
    obtain ⟨gap, hbetween, hgap⟩ := exists_between spacing (depth + 1)
    refine ⟨_, ?_, listed_join hpad hgap (blank_before spacing depth) (.cons hp hrest) (by simp)
      (blank_before spacing (depth + 1))⟩
    rw [← hbetween]
    rfl

end

mutual
/-- A value is spelled by its text… -/
theorem bare_writeAt (spacing : Spacing) (depth : ℕ) :
    ∀ j : Json, j.isPortable = true → Bare (writeAt spacing depth j) j
  | .null => fun _ => .null
  | .bool true => fun _ => .yes
  | .bool false => fun _ => .no
  | .int i => fun _ => .int (spellsInt_text i)
  | .float x => fun h => by
    rw [isPortable] at h
    cases h
  | .text s => fun _ => bare_quote s
  | .array items => fun h => by
    obtain ⟨cs, hcs, hlisted⟩ := exists_bracketed Spells.pad spacing depth '[' ']'
      (spells_writeItems spacing (depth + 1) items h)
    rw [writeAt, hcs]
    exact .array hlisted
  | .object members => fun h => by
    rw [isPortable, Bool.and_eq_true] at h
    obtain ⟨cs, hcs, hlisted⟩ := exists_bracketed IsMember.pad spacing depth '\x7b' '\x7d'
      (isMember_writeMembers spacing (depth + 1) members h.2)
    rw [writeAt, hcs]
    exact .object hlisted
/-- …and so are the items of an array… -/
theorem spells_writeItems (spacing : Spacing) (depth : ℕ) :
    ∀ items : List Json, arePortable items = true →
      List.Forall₂ Spells (writeItems spacing depth items) items
  | [] => fun _ => .nil
  | j :: js => fun h => by
    rw [arePortable, Bool.and_eq_true] at h
    exact .cons (bare_writeAt spacing depth j h.1).spells (spells_writeItems spacing depth js h.2)
/-- …and the members of an object. -/
theorem isMember_writeMembers (spacing : Spacing) (depth : ℕ) :
    ∀ members : List (String × Json), membersArePortable members = true →
      List.Forall₂ (IsMember Spells) (writeMembers spacing depth members) members
  | [] => fun _ => .nil
  | (k, j) :: ms => fun h => by
    rw [membersArePortable, Bool.and_eq_true] at h
    have hvalue : Spells (' ' :: writeAt spacing depth j) j := by
      have hpadded := (bare_writeAt spacing depth j h.1).spells.pad (b := [' ']) (d := []) rfl rfl
      rwa [List.append_nil] at hpadded
    exact .cons (.mk (bare_quote k).spells hvalue) (isMember_writeMembers spacing depth ms h.2)
end

/-- **What is written is JSON**, and spells the value. -/
theorem spells_write (spacing : Spacing) {j : Json} (h : j.isPortable = true) :
    Spells (write spacing j) j := (bare_writeAt spacing 0 j h).spells

/-! ## Characters -/

/-- Whether a character is a printable one of ASCII or a line feed. -/
def isPrinted (c : Char) : Bool := c == '\n' || (32 ≤ c.toNat && c.toNat ≤ 126)

theorem lt_of_isPrinted {c : Char} (h : isPrinted c = true) : c.toNat < 128 := by
  simp only [isPrinted, Bool.or_eq_true, Bool.and_eq_true, decide_eq_true_eq, beq_iff_eq] at h
  obtain rfl | h := h
  · decide
  · omega

theorem isPrinted_of_isDigit {c : Char} (h : c.isDigit = true) : isPrinted c = true := by
  have hbounds : 48 ≤ c.toNat ∧ c.toNat ≤ 57 := by
    simpa [Char.isDigit, UInt32.le_iff_toNat_le] using h
  simp only [isPrinted, Bool.or_eq_true, Bool.and_eq_true, decide_eq_true_eq]
  omega

theorem all_isPrinted_toDigits (n : ℕ) : (Nat.toDigits 10 n).all isPrinted = true :=
  List.all_eq_true.mpr fun _ hc =>
    isPrinted_of_isDigit (Nat.isDigit_of_mem_toDigits (by decide : 0 < 10) (by decide) hc)

theorem all_isPrinted_integerText (i : ℤ) : (Integer.text i).all isPrinted = true := by
  rw [Integer.text]
  split
  · exact Bool.and_eq_true_iff.mpr ⟨rfl, all_isPrinted_toDigits _⟩
  · exact all_isPrinted_toDigits _

theorem all_isPrinted_replicate {c : Char} (h : isPrinted c = true) (n : ℕ) :
    (List.replicate n c).all isPrinted = true :=
  List.all_eq_true.mpr fun _ hd => List.eq_of_mem_replicate hd ▸ h

theorem all_isPrinted_hex (width n : ℕ) : (Text.hex width n).all isPrinted = true := by
  have hdigits : (Nat.toDigits 16 n).all isPrinted = true := by
    induction n using Nat.strong_induction_on with
    | _ n ih =>
      have hdigit : ∀ d < 16, [Nat.digitChar d].all isPrinted = true := by decide
      rw [Nat.toDigits_eq_if (by decide)]
      split
      · next h => exact hdigit n h
      · next h =>
        rw [List.all_append, ih (n / 16) (Nat.div_lt_self (by omega) (by decide)),
          hdigit _ (Nat.mod_lt n (by decide))]
        rfl
  rw [Text.hex, List.all_append, all_isPrinted_replicate rfl, hdigits]
  rfl

/-- **An escape is printable.** -/
theorem all_isPrinted_escape (c : Char) : (escape c).all isPrinted = true := by
  have hunit : ∀ n, (unit n).all isPrinted = true := fun n => all_isPrinted_hex 4 n
  simp only [escape]
  split_ifs
  all_goals try rfl
  · next h => simpa [isPrinted] using Or.inr h
  · exact hunit _
  · rw [List.all_append, hunit, hunit]
    rfl

theorem all_isPrinted_quote (cs : List Char) : (quote cs).all isPrinted = true := by
  have hescapes : (cs.flatMap escape).all isPrinted = true :=
    List.all_eq_true.mpr fun d hd => by
      obtain ⟨c, -, hc⟩ := List.mem_flatMap.mp hd
      exact List.all_eq_true.mp (all_isPrinted_escape c) d hc
  rw [quote, List.all_append, List.all_cons, hescapes]
  rfl

theorem all_isPrinted_join {sep : List Char} (hsep : sep.all isPrinted = true) :
    ∀ {parts : List (List Char)}, (∀ p ∈ parts, p.all isPrinted = true) →
      (Text.join sep parts).all isPrinted = true
  | [], _ => rfl
  | [p], h => h p List.mem_cons_self
  | p :: q :: ps, h => by
    obtain ⟨hp, hrest⟩ := List.forall_mem_cons.mp h
    rw [Text.join_cons_cons, List.all_append, List.all_append, hp, hsep, all_isPrinted_join hsep hrest]
    rfl

/-! Numbers with a fraction are printed from digits, signs and points. -/

theorem all_isPrinted_shortest (m : ℕ) (q : ℤ) :
    (Binary64.shortest m q).digits.all isPrinted = true := by
  unfold Binary64.shortest
  dsimp only
  split
  · next n c _ =>
    have hdigits : ∀ d ∈ (Nat.toDigits 10 c).reverse, isPrinted d = true := fun d hd =>
      List.all_eq_true.mp (all_isPrinted_toDigits c) d (List.mem_reverse.mp hd)
    refine List.all_eq_true.mpr fun d hd => hdigits d ?_
    exact (List.dropWhile_sublist _).subset (List.mem_reverse.mp hd)
  · rfl

theorem all_isPrinted_exponentText (e : ℤ) : (Binary64.exponentText e).all isPrinted = true := by
  have hsign : isPrinted (if e < 0 then '-' else '+') = true := by split <;> rfl
  simp only [Binary64.exponentText, List.all_cons, hsign, Bool.true_and]
  split
  · exact all_isPrinted_toDigits _
  · exact all_isPrinted_toDigits _

theorem all_isPrinted_decimalText {d : Decimal} (h : d.digits.all isPrinted = true) :
    (Binary64.decimalText d).all isPrinted = true := by
  have hzeros : ∀ n, (List.replicate n '0').all isPrinted = true := all_isPrinted_replicate rfl
  have hpart : ∀ {cs : List Char}, cs.Sublist d.digits → cs.all isPrinted = true := fun hsub =>
    List.all_eq_true.mpr fun c hc => List.all_eq_true.mp h c (hsub.subset hc)
  have hpoint : isPrinted '.' = true := rfl
  have hzero : isPrinted '0' = true := rfl
  have he : isPrinted 'e' = true := rfl
  unfold Binary64.decimalText
  dsimp only
  split_ifs
  · simp only [List.all_cons, List.all_append, hzero, hpoint, hzeros, h, Bool.and_self]
  · simp only [List.all_cons, List.all_append, List.all_nil, hzero, hpoint, hzeros, h, Bool.and_self]
  · simp only [List.all_cons, List.all_append, hpoint, hpart (List.take_sublist _ _),
      hpart (List.drop_sublist _ _), Bool.and_self]
  · split
    · rfl
    · next hdigits =>
      rw [hdigits] at h
      simp only [List.all_cons, List.all_nil, Bool.and_true] at h ⊢
      simp only [h, he, all_isPrinted_exponentText, Bool.and_self]
    · next hdigits =>
      rw [hdigits] at h
      simp only [List.all_cons, Bool.and_eq_true] at h
      simp only [List.all_cons, List.all_append, h.1, h.2, hpoint, he, all_isPrinted_exponentText,
        Bool.and_self]

theorem all_isPrinted_text (x : Binary64) : x.text.all isPrinted = true := by
  cases x with
  | nan => rfl
  | infinite negative => cases negative <;> rfl
  | finite negative m q =>
    have hbody : (if m = 0 then "0.0".toList
        else Binary64.decimalText (Binary64.shortest m q)).all isPrinted = true := by
      split
      · rfl
      · exact all_isPrinted_decimalText (all_isPrinted_shortest m q)
    simp only [Binary64.text]
    cases negative with
    | false => exact hbody
    | true => exact Bool.and_eq_true_iff.mpr ⟨rfl, hbody⟩

theorem all_isPrinted_number (x : Binary64) : (number x).all isPrinted = true := by
  cases x with
  | nan => rfl
  | infinite negative => cases negative <;> rfl
  | finite negative m q => exact all_isPrinted_text (.finite negative m q)

theorem all_isPrinted_before (spacing : Spacing) (depth : ℕ) :
    (spacing.before depth).all isPrinted = true := by
  cases spacing with
  | inline => rfl
  | indented => exact all_isPrinted_replicate rfl _

theorem all_isPrinted_bracketed (spacing : Spacing) (depth : ℕ) {opening closing : Char}
    (hopening : isPrinted opening = true) (hclosing : isPrinted closing = true)
    {parts : List (List Char)} (h : ∀ p ∈ parts, p.all isPrinted = true) :
    (bracketed spacing depth opening closing parts).all isPrinted = true := by
  have hbetween : ∀ depth, (spacing.between depth).all isPrinted = true := fun depth => by
    cases spacing with
    | inline => rfl
    | indented => exact all_isPrinted_before .indented depth
  unfold bracketed
  split
  · simp only [List.all_cons, List.all_nil, hopening, hclosing, Bool.and_self]
  · simp only [List.all_cons, List.all_append, List.all_nil, hopening, hclosing,
      all_isPrinted_before, all_isPrinted_join (hbetween _) h, Bool.and_self]

mutual
theorem all_isPrinted_writeAt (spacing : Spacing) (depth : ℕ) :
    ∀ j : Json, (writeAt spacing depth j).all isPrinted = true
  | .null => rfl
  | .bool true => rfl
  | .bool false => rfl
  | .int i => all_isPrinted_integerText i
  | .float x => all_isPrinted_number x
  | .text s => all_isPrinted_quote s.toList
  | .array items =>
    all_isPrinted_bracketed spacing depth rfl rfl (all_isPrinted_writeItems spacing (depth + 1) items)
  | .object members =>
    all_isPrinted_bracketed spacing depth rfl rfl
      (all_isPrinted_writeMembers spacing (depth + 1) members)
theorem all_isPrinted_writeItems (spacing : Spacing) (depth : ℕ) :
    ∀ items : List Json, ∀ p ∈ writeItems spacing depth items, p.all isPrinted = true
  | [] => by simp [writeItems]
  | j :: js =>
    List.forall_mem_cons.mpr
      ⟨all_isPrinted_writeAt spacing depth j, all_isPrinted_writeItems spacing depth js⟩
theorem all_isPrinted_writeMembers (spacing : Spacing) (depth : ℕ) :
    ∀ members : List (String × Json),
      ∀ p ∈ writeMembers spacing depth members, p.all isPrinted = true
  | [] => by simp [writeMembers]
  | (k, j) :: ms => by
    refine List.forall_mem_cons.mpr ⟨?_, all_isPrinted_writeMembers spacing depth ms⟩
    rw [List.all_append, List.all_cons, List.all_cons, all_isPrinted_quote,
      all_isPrinted_writeAt spacing depth j]
    rfl
end

/-- **What is written is printable.** -/
theorem all_isPrinted_write (spacing : Spacing) (j : Json) : (write spacing j).all isPrinted = true :=
  all_isPrinted_writeAt spacing 0 j

end Json

end ProseLinter
