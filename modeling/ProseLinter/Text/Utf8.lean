/-!
# Text/Utf8 — bytes as text

Strict UTF-8: each character has one encoding, the shortest one, and surrogates have none.  Beside
it stand the line breaks: a text that is read for linting has line feeds alone.
-/

namespace ProseLinter.Text

/-- Whether a byte continues a character. -/
def isContinuation (b : UInt8) : Bool := 0x80 ≤ b && b ≤ 0xBF

/-- The bits that a byte after the first one carries. -/
def tailBits (b : UInt8) : Nat := b.toNat % 64

/-- **Decoding**; `none` where the bytes are no UTF-8. -/
def decode? : List UInt8 → Option (List Char)
  | [] => some []
  | a :: rest =>
    if a < 0x80 then (decode? rest).map (Char.ofNat a.toNat :: ·)
    else if 0xC2 ≤ a && a ≤ 0xDF then
      match rest with
      | b :: rest =>
        if isContinuation b then
          (decode? rest).map (Char.ofNat (a.toNat % 32 * 64 + tailBits b) :: ·)
        else none
      | _ => none
    else if 0xE0 ≤ a && a ≤ 0xEF then
      match rest with
      | b :: c :: rest =>
        if isContinuation b && isContinuation c && !(a == 0xE0 && b < 0xA0)
            && !(a == 0xED && 0x9F < b) then
          (decode? rest).map
            (Char.ofNat (a.toNat % 16 * 4096 + tailBits b * 64 + tailBits c) :: ·)
        else none
      | _ => none
    else if 0xF0 ≤ a && a ≤ 0xF4 then
      match rest with
      | b :: c :: d :: rest =>
        if isContinuation b && isContinuation c && isContinuation d && !(a == 0xF0 && b < 0x90)
            && !(a == 0xF4 && 0x8F < b) then
          (decode? rest).map
            (Char.ofNat (a.toNat % 8 * 262144 + tailBits b * 4096 + tailBits c * 64 + tailBits d)
              :: ·)
        else none
      | _ => none
    else none

/-- The bytes of one character. -/
def encodeChar (c : Char) : List UInt8 :=
  let n := c.toNat
  if n < 0x80 then [n.toUInt8]
  else if n < 0x800 then [(0xC0 + n / 64).toUInt8, (0x80 + n % 64).toUInt8]
  else if n < 0x10000 then
    [(0xE0 + n / 4096).toUInt8, (0x80 + n / 64 % 64).toUInt8, (0x80 + n % 64).toUInt8]
  else
    [(0xF0 + n / 262144).toUInt8, (0x80 + n / 4096 % 64).toUInt8, (0x80 + n / 64 % 64).toUInt8,
      (0x80 + n % 64).toUInt8]

/-- **Encoding.** -/
def encode (cs : List Char) : List UInt8 := cs.flatMap encodeChar

/-- Line breaks made one, where `returned` says that a carriage return came just before. -/
def lineFeedsFrom (returned : Bool) : List Char → List Char
  | [] => []
  | c :: cs =>
    if c = '\r' then '\n' :: lineFeedsFrom true cs
    else if c = '\n' ∧ returned = true then lineFeedsFrom false cs
    else c :: lineFeedsFrom false cs

/-- **Line breaks made one**: a carriage return, alone or before a line feed, becomes a line
feed. -/
def lineFeeds (cs : List Char) : List Char := lineFeedsFrom false cs

/-- A text with single line feeds in place of pairs of carriage return and line feed. -/
def joinReturns : List Char → List Char
  | '\r' :: '\n' :: cs => '\n' :: joinReturns cs
  | c :: cs => c :: joinReturns cs
  | [] => []

end ProseLinter.Text
