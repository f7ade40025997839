import Mathlib
import ProseLinter.Proofs.Json.Grammar

/-!
# Proofs/Json/Reader — a reader of JSON

`Json.read` goes through a text from left to right and finds the value of every text of JSON
(`isReader_read`), so readers exist, and no text spells two values on which readers agree
(`Spells.unique`).  It does not look for what a text of JSON never holds.
-/

namespace ProseLinter.Json

/-! ## The reader -/

def skipBlanks (cs : List Char) : List Char := cs.dropWhile isBlank

/-- The characters up to the closing quote.  A high surrogate waits for the low one. -/
def readChars : (high : Option ℕ) → List Char → Option (List Char × List Char)
  | none, '"' :: rest => some ([], rest)
  | none, '\\' :: 'u' :: a :: b :: c :: d :: rest =>
    match Text.readHex? [a, b, c, d] with
    | none => none
    | some n =>
      if 0xD800 ≤ n ∧ n < 0xDC00 then readChars (some n) rest
      else (readChars none rest).map fun p => (Char.ofNat n :: p.1, p.2)
  | some high, '\\' :: 'u' :: a :: b :: c :: d :: rest =>
    match Text.readHex? [a, b, c, d] with
    | none => none
    | some low =>
      (readChars none rest).map fun p =>
        (Char.ofNat (0x10000 + (high - 0xD800) * 0x400 + (low - 0xDC00)) :: p.1, p.2)
  | none, '\\' :: e :: rest =>
    match shorthands.lookup e with
    | none => none
    | some c => (readChars none rest).map fun p => (c :: p.1, p.2)
  | none, c :: rest => (readChars none rest).map fun p => (c :: p.1, p.2)
  | _, _ => none

/-- The number that the digits in front spell. -/
def readDigits (cs : List Char) : ℕ × List Char :=
  (Nat.ofDigitChars 10 (cs.takeWhile Char.isDigit) 0, cs.dropWhile Char.isDigit)

def readWord : List Char → Option (Json × List Char)
  | 'n' :: 'u' :: 'l' :: 'l' :: rest => some (.null, rest)
  | 't' :: 'r' :: 'u' :: 'e' :: rest => some (.bool true, rest)
  | 'f' :: 'a' :: 'l' :: 's' :: 'e' :: rest => some (.bool false, rest)
  | _ => none

section

variable {α : Type}

/-- Pieces up to the closing bracket. -/
def readPieces (piece : List Char → Option (α × List Char)) (closing : Char) :
    ℕ → List Char → Option (List α × List Char)
  | 0, _ => none
  | fuel + 1, cs =>
    match piece cs with
    | some (a, ',' :: rest) => (readPieces piece closing fuel rest).map fun p => (a :: p.1, p.2)
    | some (a, c :: rest) => if c = closing then some ([a], rest) else none
    | _ => none

/-- What stands between brackets. -/
def readBrackets (piece : List Char → Option (α × List Char)) (closing : Char) (fuel : ℕ)
    (cs : List Char) : Option (List α × List Char) :=
  match skipBlanks cs with
  | c :: rest => if c = closing then some ([], rest) else readPieces piece closing fuel cs
  | [] => none

end

/-- A key, a colon and a value. -/
def readMember (value : List Char → Option (Json × List Char)) (cs : List Char) :
    Option ((String × Json) × List Char) :=
  match value cs with
  | some (.text k, ':' :: rest) => (value rest).map fun p => ((k, p.1), p.2)
  | _ => none

/-- A value at the front of a text, which holds other values. -/
def readBare (value : List Char → Option (Json × List Char)) (fuel : ℕ) (cs : List Char) :
    Option (Json × List Char) :=
  match cs with
  | [] => none
  | c :: rest =>
    if c.isDigit then some (.int (readDigits cs).1, (readDigits cs).2)
    else if c = '-' then some (.int (-(readDigits rest).1), (readDigits rest).2)
    else if c = '"' then (readChars none rest).map fun p => (.text (String.ofList p.1), p.2)
    else if c = '[' then (readBrackets value ']' fuel rest).map fun p => (.array p.1, p.2)
    else if c = '\x7b' then
      (readBrackets (readMember value) '\x7d' fuel rest).map fun p => (.object p.1, p.2)
    else readWord cs

/-- A value with blanks around it. -/
def readValue : ℕ → List Char → Option (Json × List Char)
  | 0, _ => none
  | fuel + 1, cs =>
    (readBare (readValue fuel) fuel (skipBlanks cs)).map fun p => (p.1, skipBlanks p.2)

/-- **Reading a text of JSON.** -/
def read (cs : List Char) : Option Json :=
  match readValue (cs.length + 1) cs with
  | some (j, []) => some j
  | _ => none

/-! ## What is read in front of a rest -/

/-- A rest in front of which a number ends. -/
def EndsNumber (rest : List Char) : Prop := ∀ c ∈ rest.head?, c.isDigit = false

/-- **A piece is read** wherever a text of fewer than `n` characters spells it, and the blanks after
it are skipped. -/
def Reads {α : Type} (piece : List Char → Option (α × List Char)) (P : List Char → α → Prop)
    (n : ℕ) : Prop :=
  ∀ cs a rest, P cs a → cs.length < n → EndsNumber rest →
    piece (cs ++ rest) = some (a, skipBlanks rest)

theorem skipBlanks_append {before : List Char} (h : before.all isBlank = true) (rest : List Char) :
    skipBlanks (before ++ rest) = skipBlanks rest :=
  List.dropWhile_append_of_pos fun c hc => List.all_eq_true.mp h c hc

theorem skipBlanks_cons {c : Char} (h : isBlank c = false) (rest : List Char) :
    skipBlanks (c :: rest) = c :: rest :=
  List.dropWhile_cons_of_neg (by simp [h])

theorem isDigit_of_isBlank {c : Char} (h : isBlank c = true) : c.isDigit = false := by
  simp only [isBlank, Bool.or_eq_true, beq_iff_eq] at h
  obtain ((rfl | rfl) | rfl) | rfl := h <;> rfl

theorem EndsNumber.append {after rest : List Char} (hafter : after.all isBlank = true)
    (hrest : EndsNumber rest) : EndsNumber (after ++ rest) := by
  cases after with
  | nil => exact hrest
  | cons b bs =>
    rintro c ⟨⟩
    exact isDigit_of_isBlank (List.all_eq_true.mp hafter b List.mem_cons_self)

theorem endsNumber_cons {c : Char} (h : c.isDigit = false) (rest : List Char) :
    EndsNumber (c :: rest) := by
  rintro _ ⟨⟩
  exact h

/-! ## Tokens are read -/

theorem IsUnit.eq_cons {ds : List Char} {n : ℕ} (h : IsUnit ds n) :
    ∃ a b c d, ds = [a, b, c, d] ∧ Text.readHex? [a, b, c, d] = some n := by
  obtain ⟨hlength, hread⟩ := h
  obtain ⟨a, b, c, d, rfl⟩ := List.length_eq_four.mp hlength
  exact ⟨a, b, c, d, rfl, hread⟩

/-- The number of a character is no surrogate. -/
theorem not_isHigh (c : Char) : ¬ (0xD800 ≤ c.toNat ∧ c.toNat < 0xDC00) := by
  have hvalid : c.toNat < 0xD800 ∨ 0xDFFF < c.toNat ∧ c.toNat < 0x110000 := c.valid
  omega

/-- **A character is read** in front of the others. -/
theorem readChars_of_spellsChar {cs : List Char} {c : Char} (h : SpellsChar cs c)
    (rest : List Char) :
    readChars none (cs ++ rest) = (readChars none rest).map fun p => (c :: p.1, p.2) := by
  cases h with
  | itself hc hquote hbackslash =>
    rw [List.singleton_append, readChars] <;> simp_all
  | @shorthand e _ he =>
    simp only [shorthands, List.mem_cons, Prod.mk.injEq, List.not_mem_nil, or_false] at he
    rcases he with ⟨rfl, rfl⟩ | ⟨rfl, rfl⟩ | ⟨rfl, rfl⟩ | ⟨rfl, rfl⟩ | ⟨rfl, rfl⟩ | ⟨rfl, rfl⟩ |
      ⟨rfl, rfl⟩ | ⟨rfl, rfl⟩ <;> rfl
  | @unit ds _ hunit =>
    obtain ⟨a, b, c', d, rfl, hread⟩ := hunit.eq_cons
    simp only [List.cons_append, List.nil_append, readChars, hread, if_neg (not_isHigh c),
      Char.ofNat_toNat]
  | @pair ds es high low _ hhigh hlow h1 h2 h3 h4 hc =>
    obtain ⟨a, b, c', d, rfl, hread⟩ := hhigh.eq_cons
    obtain ⟨a', b', c'', d', rfl, hread'⟩ := hlow.eq_cons
    simp only [List.cons_append, List.nil_append, readChars, hread, hread', h1, h2, and_self,
      if_true, ← hc, Char.ofNat_toNat]

/-- **The characters of a text are read** up to its closing quote. -/
theorem readChars_of_spellsChars {cs s : List Char} (h : SpellsChars cs s) (rest : List Char) :
    readChars none (cs ++ '"' :: rest) = some (s, rest) := by
  induction h with
  | nil => rfl
  | cons hchar _ ih => rw [List.append_assoc, readChars_of_spellsChar hchar, ih]; rfl

/-- **The digits of a number are read.** -/
theorem readDigits_of_isNumeral {ds rest : List Char} {n : ℕ} (h : IsNumeral ds n)
    (hrest : EndsNumber rest) : readDigits (ds ++ rest) = (n, rest) := by
  have htake : (ds ++ rest).takeWhile Char.isDigit = ds := by
    rw [List.takeWhile_append_of_pos h.digits]
    cases rest with
    | nil => simp
    | cons c cs => simp [hrest c rfl]
  have hdrop : (ds ++ rest).dropWhile Char.isDigit = rest := by
    rw [List.dropWhile_append_of_pos h.digits]
    cases rest with
    | nil => rfl
    | cons c cs => simp [hrest c rfl]
  rw [readDigits, htake, hdrop, h.value]

/-! ## Values are read -/

section

variable {α : Type} {piece : List Char → Option (α × List Char)} {P : List Char → α → Prop}
  {n : ℕ} {closing : Char}

/-- The brackets that close. -/
def IsClosing (closing : Char) : Prop := closing = ']' ∨ closing = '\x7d'

theorem IsClosing.endsNumber (h : IsClosing closing) (rest : List Char) :
    EndsNumber (closing :: rest) := by
  obtain rfl | rfl := h <;> exact endsNumber_cons rfl rest

theorem IsClosing.skipBlanks (h : IsClosing closing) (rest : List Char) :
    Json.skipBlanks (closing :: rest) = closing :: rest := by
  obtain rfl | rfl := h <;> exact skipBlanks_cons rfl rest

/-- **Pieces are read** up to the closing bracket. -/
theorem readPieces_of_listed (hpiece : Reads piece P n) (hclosing : IsClosing closing)
    {cs : List Char} {a : α} {as : List α} (h : Listed P cs (a :: as)) (hlength : cs.length < n)
    {fuel : ℕ} (hfuel : cs.length < fuel) (rest : List Char) :
    readPieces piece closing fuel (cs ++ closing :: rest) = some (a :: as, rest) := by
  induction fuel generalizing cs a as with
  | zero => exact absurd hfuel (Nat.not_lt_zero _)
  | succ fuel ih =>
    cases h with
    | last ha =>
      rw [readPieces, hpiece cs a _ ha hlength (hclosing.endsNumber rest), hclosing.skipBlanks]
      obtain rfl | rfl := hclosing <;> rfl
    | @next cs' rest' _ b bs ha hbs =>
      simp only [List.length_append, List.length_cons] at hlength hfuel
      rw [List.append_assoc, List.cons_append, readPieces,
        hpiece cs' a _ ha (by omega) (endsNumber_cons rfl _), skipBlanks_cons rfl]
      simp only [ih hbs (by omega) (by omega)]
      rfl

/-- A text that starts, after blanks, with a character that closes nothing. -/
def Opens (cs : List Char) : Prop :=
  ∀ rest, ∃ c cs', skipBlanks (cs ++ rest) = c :: cs' ∧ ∀ closing, IsClosing closing → c ≠ closing

/-- **What stands between brackets is read.** -/
theorem readBrackets_of_listed (hpiece : Reads piece P n) (hopens : ∀ cs a, P cs a → Opens cs)
    (hclosing : IsClosing closing) {cs : List Char} {as : List α} (h : Listed P cs as)
    (hlength : cs.length < n) (rest : List Char) :
    readBrackets piece closing n (cs ++ closing :: rest) = some (as, rest) := by
  have hlisted : ∀ {a as'}, Listed P cs (a :: as') → Opens cs →
      readBrackets piece closing n (cs ++ closing :: rest) = some (a :: as', rest) :=
    fun h hopen => by
      obtain ⟨c, cs', hskip, hc⟩ := hopen (closing :: rest)
      simp only [readBrackets, hskip, if_neg (hc closing hclosing)]
      exact readPieces_of_listed hpiece hclosing h hlength hlength rest
  cases h with
  | none hblank =>
    rw [readBrackets, skipBlanks_append hblank, hclosing.skipBlanks]
    exact if_pos rfl
  | last ha => exact hlisted (.last ha) (hopens cs _ ha)
  | @next cs' rest' a b bs ha hbs =>
    refine hlisted (.next ha hbs) fun r => ?_
    rw [List.append_assoc]
    exact hopens cs' a ha _

end

theorem Bare.exists_cons {cs : List Char} {j : Json} (h : Bare cs j) :
    ∃ c cs', cs = c :: cs' ∧ isBlank c = false ∧ ∀ closing, IsClosing closing → c ≠ closing := by
  have hdigit : ∀ c : Char, c.isDigit = true →
      isBlank c = false ∧ ∀ closing, IsClosing closing → c ≠ closing := fun c hc => by
    refine ⟨?_, ?_⟩
    · by_contra hblank
      rw [isDigit_of_isBlank (by simpa using hblank)] at hc
      cases hc
    · rintro closing (rfl | rfl) rfl <;> cases hc
  have hother : ∀ c : Char, isBlank c = false → c ≠ ']' → c ≠ '\x7d' →
      isBlank c = false ∧ ∀ closing, IsClosing closing → c ≠ closing := fun c hc hsquare hcurly =>
    ⟨hc, by rintro closing (rfl | rfl) <;> assumption⟩
  cases h with
  | int hint =>
    cases hint with
    | plain hnumeral =>
      cases cs with
      | nil => exact absurd rfl hnumeral.ne_nil
      | cons d ds => exact ⟨d, ds, rfl, hdigit d (hnumeral.digits d List.mem_cons_self)⟩
    | negative => exact ⟨'-', _, rfl, hother _ rfl (by decide) (by decide)⟩
  | _ => exact ⟨_, _, rfl, hother _ rfl (by decide) (by decide)⟩

theorem Bare.skipBlanks {cs : List Char} {j : Json} (h : Bare cs j) (rest : List Char) :
    skipBlanks (cs ++ rest) = cs ++ rest := by
  obtain ⟨c, cs', rfl, hc, -⟩ := h.exists_cons
  exact skipBlanks_cons hc _

theorem Spells.opens {cs : List Char} {j : Json} (h : Spells cs j) : Opens cs := fun rest => by
  cases h with
  | @mk before bare after _ hbefore hbare hafter =>
    obtain ⟨c, cs', rfl, hc, hclosing⟩ := hbare.exists_cons
    refine ⟨c, cs' ++ after ++ rest, ?_, hclosing⟩
    rw [List.append_assoc, List.append_assoc, skipBlanks_append hbefore, List.cons_append,
      skipBlanks_cons hc, List.append_assoc]

theorem IsMember.opens {cs : List Char} {m : String × Json} (h : IsMember Spells cs m) :
    Opens cs := fun rest => by
  cases h with
  | mk hk hv =>
    rw [List.append_assoc]
    exact hk.opens _

variable {value : List Char → Option (Json × List Char)} {n : ℕ}

/-- A key and its value are read. -/
theorem reads_readMember (h : Reads value Spells n) :
    Reads (readMember value) (IsMember Spells) n := by
  intro cs m rest hm hlength hrest
  cases hm with
  | @mk ks vs k j hk hj =>
    simp only [List.length_append, List.length_cons] at hlength
    rw [List.append_assoc, List.cons_append, readMember,
      h ks (.text k) _ hk (by omega) (endsNumber_cons rfl _), skipBlanks_cons rfl]
    simp only [h vs j rest hj (by omega) hrest, Option.map_some]

/-- **A bare value is read.** -/
theorem readBare_of_bare (h : Reads value Spells n) {cs : List Char} {j : Json} (hbare : Bare cs j)
    (hlength : cs.length < n + 1) {rest : List Char} (hrest : EndsNumber rest) :
    readBare value n (cs ++ rest) = some (j, rest) := by
  cases hbare with
  | null => rfl
  | yes => rfl
  | no => rfl
  | int hint =>
    cases hint with
    | plain hnumeral =>
      have hdigits := readDigits_of_isNumeral hnumeral hrest
      cases cs with
      | nil => exact absurd rfl hnumeral.ne_nil
      | cons d ds =>
        rw [List.cons_append] at hdigits ⊢
        simp only [readBare, hnumeral.digits d List.mem_cons_self, if_true, hdigits]
    | @negative ds i hnumeral =>
      have hdigits := readDigits_of_isNumeral hnumeral hrest
      rw [List.cons_append, readBare]
      simp only [hdigits]
      rfl
  | @text cs s hs =>
    have hchars := readChars_of_spellsChars hs rest
    rw [List.append_assoc, List.singleton_append, List.cons_append, readBare]
    simp only [hchars, Option.map_some, String.ofList_toList]
    rfl
  | @array cs items hitems =>
    simp only [List.length_append, List.length_cons, List.length_nil] at hlength
    have hread := readBrackets_of_listed h (fun _ _ hs => hs.opens) (.inl rfl) hitems (by omega) rest
    rw [List.append_assoc, List.singleton_append, List.cons_append, readBare]
    simp only [hread, Option.map_some]
    rfl
  | @object cs members hmembers =>
    simp only [List.length_append, List.length_cons, List.length_nil] at hlength
    have hread := readBrackets_of_listed (reads_readMember h) (fun _ _ hm => hm.opens) (.inr rfl)
      hmembers (by omega) rest
    rw [List.append_assoc, List.singleton_append, List.cons_append, readBare]
    simp only [hread, Option.map_some]
    rfl

/-- **A value is read**, with the blanks around it. -/
theorem reads_readValue (n : ℕ) : Reads (readValue n) Spells n := by
  induction n with
  | zero => exact fun _ _ _ _ hlength => absurd hlength (Nat.not_lt_zero _)
  | succ n ih =>
    intro cs j rest hspells hlength hrest
    cases hspells with
    | @mk before bare after _ hbefore hbare hafter =>
      simp only [List.length_append] at hlength
      rw [List.append_assoc, List.append_assoc, readValue, skipBlanks_append hbefore,
        hbare.skipBlanks, readBare_of_bare ih hbare (by omega) (hrest.append hafter),
        Option.map_some, skipBlanks_append hafter]

/-- **Every text of JSON is read.** -/
theorem read_of_spells {cs : List Char} {j : Json} (h : Spells cs j) : read cs = some j := by
  have hread := reads_readValue (cs.length + 1) cs j [] h (Nat.lt_succ_self _) (by simp [EndsNumber])
  rw [List.append_nil] at hread
  rw [read, hread]
  rfl

example : read " [1, -20, \"a\\n\\u00e9\\ud83d\\ude00\", \x7b\"k\" : null\x7d] ".toList =
    some (.array [.int 1, .int (-20), .text "a\né😀", .object [("k", .null)]]) := by rfl

theorem isReader_read : IsReader read := fun _ _ _ => read_of_spells

/-- **No text spells two values.** -/
theorem Spells.unique {cs : List Char} {j j' : Json} (h : Spells cs j) (h' : Spells cs j') :
    j = j' :=
  Option.some.inj ((read_of_spells h).symm.trans (read_of_spells h'))

end ProseLinter.Json
