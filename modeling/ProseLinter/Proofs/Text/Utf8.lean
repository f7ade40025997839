import Mathlib
import ProseLinter.Text.Utf8

/-!
# Proofs/Text/Utf8 — what can be decoded

The bytes of a character have one of four forms (`Encodes`), and each form is decoded as the one
character that is encoded in it.  So decoding and encoding undo each other, and what cannot be
decoded is the encoding of no text (`decode?_eq_none_iff`).
-/

namespace ProseLinter.Text

variable {bytes : List UInt8} {n : ℕ} {cs : List Char}

/-- **The bytes of a character**, in one of four forms, and the number of the character.  The bounds
on the second byte leave out what has a shorter form, surrogates, and what is above all characters. -/
inductive Encodes : List UInt8 → ℕ → Prop
  | one {a : UInt8} : a < 0x80 → Encodes [a] a.toNat
  | two {a b : UInt8} : 0xC2 ≤ a → a ≤ 0xDF → isContinuation b = true →
      Encodes [a, b] (a.toNat % 32 * 64 + tailBits b)
  | three {a b c : UInt8} : 0xE0 ≤ a → a ≤ 0xEF → isContinuation b = true →
      isContinuation c = true → (a = 0xE0 → 0xA0 ≤ b) → (a = 0xED → b ≤ 0x9F) →
      Encodes [a, b, c] (a.toNat % 16 * 4096 + tailBits b * 64 + tailBits c)
  | four {a b c d : UInt8} : 0xF0 ≤ a → a ≤ 0xF4 → isContinuation b = true →
      isContinuation c = true → isContinuation d = true → (a = 0xF0 → 0x90 ≤ b) →
      (a = 0xF4 → b ≤ 0x8F) → Encodes [a, b, c, d]
        (a.toNat % 8 * 262144 + tailBits b * 4096 + tailBits c * 64 + tailBits d)

/-- A byte that continues a character is made of a mark and six bits. -/
theorem toNat_of_isContinuation {b : UInt8} (h : isContinuation b = true) :
    b.toNat = 0x80 + tailBits b ∧ tailBits b < 64 := by
  simp only [isContinuation, Bool.and_eq_true, decide_eq_true_eq, UInt8.le_iff_toNat_le,
    UInt8.reduceToNat] at h
  unfold tailBits
  omega

theorem toNat_toUInt8 (h : n < 256) : n.toUInt8.toNat = n := by
  simp only [Nat.toUInt8_eq, UInt8.toNat_ofNat', Nat.reducePow]
  omega

theorem toUInt8_eq_of_toNat {b : UInt8} (h : n = b.toNat) : n.toUInt8 = b := by
  rw [h, Nat.toUInt8_eq, UInt8.ofNat_toNat]

theorem toNat_ofNat (h : n.isValidChar) : (Char.ofNat n).toNat = n := by
  rw [Char.ofNat, dif_pos h]
  rfl

namespace Encodes

theorem cast {m : ℕ} (h : Encodes bytes m) (hm : m = n) : Encodes bytes n := hm ▸ h

/-- **The number is that of a character**, and the character is encoded in the bytes. -/
theorem encodeChar_eq (h : Encodes bytes n) :
    n.isValidChar ∧ encodeChar (Char.ofNat n) = bytes := by
  suffices hvalid : n.isValidChar ∧ (n.isValidChar → encodeChar (Char.ofNat n) = bytes) from
    ⟨hvalid.1, hvalid.2 hvalid.1⟩
  unfold Nat.isValidChar
  cases h with
  | one ha =>
    simp only [UInt8.lt_iff_toNat_lt, UInt8.reduceToNat] at ha
    refine ⟨by omega, fun hvalid => ?_⟩
    rw [encodeChar, toNat_ofNat hvalid, if_pos ha, toUInt8_eq_of_toNat rfl]
  | two ha ha' hb =>
    simp only [UInt8.le_iff_toNat_le, UInt8.reduceToNat] at ha ha'
    have := toNat_of_isContinuation hb
    refine ⟨by omega, fun hvalid => ?_⟩
    rw [encodeChar, toNat_ofNat hvalid, if_neg (by omega), if_pos (by omega)]
    congr 2 <;> exact toUInt8_eq_of_toNat (by omega)
  | three ha ha' hb hc hlow hhigh =>
    simp only [UInt8.le_iff_toNat_le, ← UInt8.toNat_inj, UInt8.reduceToNat] at ha ha' hlow hhigh
    have := toNat_of_isContinuation hb
    have := toNat_of_isContinuation hc
    refine ⟨by omega, fun hvalid => ?_⟩
    rw [encodeChar, toNat_ofNat hvalid, if_neg (by omega), if_neg (by omega), if_pos (by omega)]
    congr 3 <;> exact toUInt8_eq_of_toNat (by omega)
  | four ha ha' hb hc hd hlow hhigh =>
    simp only [UInt8.le_iff_toNat_le, ← UInt8.toNat_inj, UInt8.reduceToNat] at ha ha' hlow hhigh
    have := toNat_of_isContinuation hb
    have := toNat_of_isContinuation hc
    have := toNat_of_isContinuation hd
    refine ⟨by omega, fun hvalid => ?_⟩
    rw [encodeChar, toNat_ofNat hvalid, if_neg (by omega), if_neg (by omega), if_neg (by omega)]
    congr 4 <;> exact toUInt8_eq_of_toNat (by omega)

/-- **The character is decoded** from the bytes. -/
theorem decode?_append (h : Encodes bytes n) (rest : List UInt8) :
    decode? (bytes ++ rest) = (decode? rest).map (Char.ofNat n :: ·) := by
  cases h with
  | one ha =>
    rw [List.singleton_append, decode?.eq_def]
    exact if_pos ha
  | two ha ha' hb =>
    rw [List.cons_append, decode?.eq_def]
    refine (if_neg (by grind)).trans ((if_pos (by grind)).trans ?_)
    exact if_pos hb
  | three ha ha' hb hc hlow hhigh =>
    rw [List.cons_append, decode?.eq_def]
    refine (if_neg (by grind)).trans ((if_neg (by grind)).trans ((if_pos (by grind)).trans ?_))
    exact if_pos (by grind)
  | four ha ha' hb hc hd hlow hhigh =>
    rw [List.cons_append, decode?.eq_def]
    refine (if_neg (by grind)).trans ((if_neg (by grind)).trans ((if_neg (by grind)).trans
      ((if_pos (by grind)).trans ?_)))
    exact if_pos (by grind)

end Encodes

/-- A mark and six bits make a byte that continues a character. -/
theorem isContinuation_mark (h : n < 64) :
    isContinuation (0x80 + n).toUInt8 = true ∧ tailBits (0x80 + n).toUInt8 = n := by
  rw [tailBits, toNat_toUInt8 (by omega)]
  refine ⟨?_, by omega⟩
  simp only [isContinuation, Bool.and_eq_true, decide_eq_true_eq, UInt8.le_iff_toNat_le,
    toNat_toUInt8 (n := 0x80 + n) (by omega), UInt8.reduceToNat]
  omega

/-- **Each character has its bytes.** -/
theorem encodes_encodeChar (c : Char) : Encodes (encodeChar c) c.toNat := by
  have hvalid : c.toNat < 0xD800 ∨ 0xDFFF < c.toNat ∧ c.toNat < 0x110000 := c.valid
  have htail := fun {n : ℕ} (h : n < 64) => (isContinuation_mark h).1
  have hbits := fun {n : ℕ} (h : n < 64) => (isContinuation_mark h).2
  rw [encodeChar]
  generalize c.toNat = n at hvalid
  split_ifs with hone htwo hthree
  · have ha : n.toUInt8.toNat = n := toNat_toUInt8 (by omega)
    refine (Encodes.one ?_).cast ha
    simp only [UInt8.lt_iff_toNat_lt, ha, UInt8.reduceToNat]
    omega
  · have ha : (0xC0 + n / 64).toUInt8.toNat = 0xC0 + n / 64 := toNat_toUInt8 (by omega)
    refine (Encodes.two ?_ ?_ (htail (by omega))).cast ?_
    · simp only [UInt8.le_iff_toNat_le, ha, UInt8.reduceToNat]
      omega
    · simp only [UInt8.le_iff_toNat_le, ha, UInt8.reduceToNat]
      omega
    · rw [hbits (by omega), ha]
      omega
  · have ha : (0xE0 + n / 4096).toUInt8.toNat = 0xE0 + n / 4096 := toNat_toUInt8 (by omega)
    have hb : (0x80 + n / 64 % 64).toUInt8.toNat = 0x80 + n / 64 % 64 := toNat_toUInt8 (by omega)
    refine (Encodes.three ?_ ?_ (htail (by omega)) (htail (by omega)) ?_ ?_).cast ?_
    · simp only [UInt8.le_iff_toNat_le, ha, UInt8.reduceToNat]
      omega
    · simp only [UInt8.le_iff_toNat_le, ha, UInt8.reduceToNat]
      omega
    · simp only [UInt8.le_iff_toNat_le, ← UInt8.toNat_inj, ha, hb, UInt8.reduceToNat]
      omega
    · simp only [UInt8.le_iff_toNat_le, ← UInt8.toNat_inj, ha, hb, UInt8.reduceToNat]
      omega
    · rw [hbits (by omega), hbits (by omega), ha]
      omega
  · have ha : (0xF0 + n / 262144).toUInt8.toNat = 0xF0 + n / 262144 := toNat_toUInt8 (by omega)
    have hb : (0x80 + n / 4096 % 64).toUInt8.toNat = 0x80 + n / 4096 % 64 :=
      toNat_toUInt8 (by omega)
    refine (Encodes.four ?_ ?_ (htail (by omega)) (htail (by omega)) (htail (by omega))
      ?_ ?_).cast ?_
    · simp only [UInt8.le_iff_toNat_le, ha, UInt8.reduceToNat]
      omega
    · simp only [UInt8.le_iff_toNat_le, ha, UInt8.reduceToNat]
      omega
    · simp only [UInt8.le_iff_toNat_le, ← UInt8.toNat_inj, ha, hb, UInt8.reduceToNat]
      omega
    · simp only [UInt8.le_iff_toNat_le, ← UInt8.toNat_inj, ha, hb, UInt8.reduceToNat]
      omega
    · rw [hbits (by omega), hbits (by omega), hbits (by omega), ha]
      omega

theorem decode?_encode (cs : List Char) : decode? (encode cs) = some cs := by
  induction cs with
  | nil => rfl
  | cons c cs ih =>
    rw [encode, List.flatMap_cons, (encodes_encodeChar c).decode?_append, ← encode, ih,
      Char.ofNat_toNat]
    rfl

/-- One character more is decoded and encoded again. -/
theorem encode_of_map_decode? {rest : List UInt8} (h : Encodes bytes n)
    (hcs : (decode? rest).map (Char.ofNat n :: ·) = some cs)
    (ih : ∀ {cs}, decode? rest = some cs → encode cs = rest) : encode cs = bytes ++ rest := by
  obtain ⟨cs, hrest, rfl⟩ := Option.map_eq_some_iff.mp hcs
  rw [encode, List.flatMap_cons, h.encodeChar_eq.2, ← encode, ih hrest]

theorem encode_of_decode? (h : decode? bytes = some cs) : encode cs = bytes := by
  fun_induction decode? bytes generalizing cs with
  | case1 =>
    obtain rfl := Option.some.inj h
    rfl
  | case2 a rest ha ih => exact encode_of_map_decode? (.one ha) h ih
  | case3 a _ ha b rest hb ih => exact encode_of_map_decode? (.two (by grind) (by grind) hb) h ih
  | case6 a _ _ ha b c rest hbc ih =>
    refine encode_of_map_decode? (.three ?_ ?_ ?_ ?_ ?_ ?_) h ih <;> grind
  | case9 a _ _ _ ha b c d rest hbcd ih =>
    refine encode_of_map_decode? (.four ?_ ?_ ?_ ?_ ?_ ?_ ?_) h ih <;> grind
  | _ => cases h

/-- **What cannot be decoded** is the encoding of no text. -/
theorem decode?_eq_none_iff : decode? bytes = none ↔ ∀ cs, encode cs ≠ bytes := by
  refine ⟨fun h cs hcs => ?_, fun h => ?_⟩
  · rw [← hcs, decode?_encode] at h
    cases h
  · cases hdecode : decode? bytes with
    | none => rfl
    | some cs => exact absurd (encode_of_decode? hdecode) (h cs)

end ProseLinter.Text
