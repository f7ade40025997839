import ProseLinter.Text.Hex

/-!
# Digest — a digest of 160 bits

The message is padded to blocks of 64 bytes, each block is stretched to eighty words, and eighty
rounds mix them into five words of state.
-/

namespace ProseLinter.Digest

/-- The five words of state. -/
structure State where
  a : UInt32
  b : UInt32
  c : UInt32
  d : UInt32
  e : UInt32

def rotate (x n : UInt32) : UInt32 := (x <<< n) ||| (x >>> (32 - n))

def start : State := ⟨0x67452301, 0xEFCDAB89, 0x98BADCFE, 0x10325476, 0xC3D2E1F0⟩

/-- A number as bytes, the highest first. -/
def bigEndian (count n : Nat) : List UInt8 :=
  (List.range count).map fun i => (n >>> (8 * (count - 1 - i))).toUInt8

/-- The message with a one bit, zeros and its length in bits. -/
def pad (message : List UInt8) : List UInt8 :=
  let zeros := (119 - message.length % 64) % 64
  message ++ 0x80 :: List.replicate zeros 0 ++ bigEndian 8 (8 * message.length)

/-- A list cut into pieces of `n`. -/
def pieces {α : Type} (n : Nat) (xs : List α) : List (List α) :=
  (List.range (xs.length / n)).map fun i => (xs.drop (n * i)).take n

/-- Four bytes as a word. -/
def word (bytes : List UInt8) : UInt32 := bytes.foldl (fun w b => (w <<< 8) ||| b.toUInt32) 0

/-- Sixteen words stretched to eighty; the words come latest first. -/
def stretch : (count : Nat) → List UInt32 → List UInt32
  | 0, ws => ws
  | n + 1, ws =>
    let earlier (i : Nat) : UInt32 := ws.getD i 0
    stretch n (rotate (earlier 2 ^^^ earlier 7 ^^^ earlier 13 ^^^ earlier 15) 1 :: ws)

/-- The function and the constant of a round. -/
def mix (round : Nat) (s : State) : UInt32 × UInt32 :=
  if round < 20 then ((s.b &&& s.c) ||| ((~~~ s.b) &&& s.d), 0x5A827999)
  else if round < 40 then (s.b ^^^ s.c ^^^ s.d, 0x6ED9EBA1)
  else if round < 60 then
    ((s.b &&& s.c) ||| (s.b &&& s.d) ||| (s.c &&& s.d), 0x8F1BBCDC)
  else (s.b ^^^ s.c ^^^ s.d, 0xCA62C1D6)

/-- The rounds over the words of a block. -/
def rounds (round : Nat) (s : State) : List UInt32 → State
  | [] => s
  | w :: ws =>
    let (f, k) := mix round s
    rounds (round + 1) ⟨rotate s.a 5 + f + s.e + k + w, s.a, rotate s.b 30, s.c, s.d⟩ ws

/-- One block. -/
def block (s : State) (bytes : List UInt8) : State :=
  let words := (stretch 64 ((pieces 4 bytes).map word).reverse).reverse
  let t := rounds 0 s words
  ⟨s.a + t.a, s.b + t.b, s.c + t.c, s.d + t.d, s.e + t.e⟩

/-- **The digest** of a message in base sixteen. -/
def hex (message : List UInt8) : List Char :=
  let s := (pieces 64 (pad message)).foldl block start
  [s.a, s.b, s.c, s.d, s.e].flatMap fun w => Text.hex 8 w.toNat

end ProseLinter.Digest
