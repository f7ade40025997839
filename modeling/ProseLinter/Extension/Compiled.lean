import ProseLinter.Failure
import ProseLinter.Number.Reader
import ProseLinter.Text.Utf8

/-!
# Extension/Compiled — bytes in the place of a compiled program

A compiled program has a header and one stored object, which has to be a program.  Bytes that are
none are told by the first thing that is wrong with them.  Of a stored object only what can be wrong
with it is kept: whether it is there at all, and whether it may be a key.
-/

namespace ProseLinter.Compiled

/-- The mark at the front of compiled programs. -/
def mark : List UInt8 := [0xA7, 0x0D, 0x0D, 0x0A]

/-- The length of the header. -/
def headerLength : Nat := 16

/-- A number in little endian order. -/
def number : List UInt8 → Nat
  | [] => 0
  | b :: bs => b.toNat + 256 * number bs

/-- A number of four bytes with a sign. -/
def signedNumber (bs : List UInt8) : Int :=
  let n := number bs
  if n < Nat.pow 2 31 then n else (n : Int) - Nat.pow 2 32

/-- What is left to read, and how many objects so far can be referred to. -/
structure Rest where
  data : List UInt8
  known : Nat

/-- Reading stored objects. -/
abbrev Reading := StateT Rest (Except CompiledFault)

namespace Reading

def fault {α : Type} (f : CompiledFault) : Reading α := throw f

/-- The next `n` bytes. -/
def take (n : Nat) : Reading (List UInt8) := fun s =>
  if s.data.length < n then .error .shortObject
  else .ok (s.data.take n, { s with data := s.data.drop n })

/-- Counts an object that can be referred to. -/
def note (flagged : Bool) : Reading Unit := fun s =>
  .ok ((), if flagged then { s with known := s.known + 1 } else s)

/-- A length in `width` bytes. -/
def length (width : Nat) (what : String) : Reading Nat := do
  let data ← take width
  if width = 4 ∧ signedNumber data < 0 then fault (.badData (what ++ " size out of range"))
  else return number data

/-- A run of bytes with its length in front. -/
def bytes (width : Nat) : Reading (List UInt8) := do take (← length width "bytes object")

end Reading

/-- A stored object: an absent one, or a value, with the kind that keeps it from being a key. -/
inductive Stored where
  | absent
  | value (noKey : Option String)

namespace Stored

/-- A value that may be a key. -/
def atom : Stored := value none

/-- The kind that keeps one of some values from being a key. -/
def noKeyAmong (vs : List (Option String)) : Option String := (vs.filterMap id).head?

end Stored

namespace Reading

/-- Bytes after which a text has been read. -/
def atom (flagged : Bool) (data : Reading (List UInt8)) : Reading Stored := do
  let _ ← data
  note flagged
  return .atom

/-- The bytes with which code points between the planes are encoded, which stored texts may hold. -/
def withoutSurrogates : List UInt8 → List UInt8
  | a :: b :: c :: rest =>
    if a == 0xED && 0xA0 ≤ b && Text.isContinuation b && Text.isContinuation c then
      withoutSurrogates rest
    else a :: withoutSurrogates (b :: c :: rest)
  | bs => bs

/-- A text. -/
def text (flagged : Bool) : Reading Stored := do
  let data ← bytes 4
  if (Text.decode? (withoutSurrogates data)).isNone then fault .undecodable
  note flagged
  return .atom

/-- A number that is written out. -/
def decimal : Reading Unit := do
  let data ← bytes 1
  let cs := data.map fun b => Char.ofNat b.toNat
  if (Binary64.read? cs).isNone then fault (.notNumber cs)

/-- The digits of a long number, the last of which is not zero. -/
def digits : (count : Nat) → Reading Unit
  | 0 => return ()
  | count + 1 => do
    let digit := number (← take 2)
    if Nat.pow 2 15 < digit then fault (.badData "digit out of range in long")
    else if digit = 0 ∧ count = 0 then fault (.badData "unnormalized long data")
    else digits count

/-- A long number. -/
def long (flagged : Bool) : Reading Stored := do
  let n := signedNumber (← take 4)
  if n = -(Nat.pow 2 31 : Int) then fault (.badData "long size out of range")
  digits n.natAbs
  note flagged
  return .atom

/-- A reference to an object that has been read. -/
def reference : Reading Stored := do
  let n := signedNumber (← take 4)
  let s ← get
  if 0 ≤ n ∧ n < s.known then return .atom else fault (.badData "invalid reference")

mutual
/-- **A stored object.** -/
def object : (fuel : Nat) → Reading Stored
  | 0 => fault .missingObject
  | fuel + 1 => do
    match (← get).data with
    | [] => fault .missingObject
    | kind :: data =>
      modify fun s => { s with data := data }
      let flagged := 128 ≤ kind.toNat
      match Char.ofNat (kind.toNat % 128) with
      | '0' => return .absent
      | 'N' => return .atom
      | 'S' => return .atom
      | '.' => return .atom
      | 'F' => return .atom
      | 'T' => return .atom
      | 'i' => atom flagged (take 4)
      | 'I' => atom flagged (take 8)
      | 'g' => atom flagged (take 8)
      | 'y' => atom flagged (take 16)
      | 's' => atom flagged (bytes 4)
      | 'a' => atom flagged (bytes 4)
      | 'A' => atom flagged (bytes 4)
      | 'z' => atom flagged (bytes 1)
      | 'Z' => atom flagged (bytes 1)
      | 't' => text flagged
      | 'u' => text flagged
      | 'l' => long flagged
      | 'f' => do
        decimal
        atom flagged (take 0)
      | 'x' => do
        decimal
        decimal
        atom flagged (take 0)
      | ')' => do
        let n ← length 1 "tuple"
        note flagged
        return .value (Stored.noKeyAmong (← objects "tuple" fuel n))
      | '(' => do
        let n ← length 4 "tuple"
        note flagged
        return .value (Stored.noKeyAmong (← objects "tuple" fuel n))
      | '[' => do
        let n ← length 4 "list"
        note flagged
        let _ ← objects "list" fuel n
        return .value (some "list")
      | '<' => do
        let n ← length 4 "set"
        note flagged
        keys fuel n
        return .value (some "set")
      | '>' => do
        let n ← length 4 "set"
        note flagged
        keys fuel n
        return .atom
      | '\x7b' => do
        note flagged
        pairs fuel
        return .value (some "dict")
      | 'c' => fault .shortObject
      | 'r' => reference
      | _ => fault (.badData "unknown type code")
/-- A number of stored objects, none of them absent. -/
def objects (place : String) : (fuel : Nat) → Nat → Reading (List (Option String))
  | _, 0 => return []
  | 0, _ => fault .missingObject
  | fuel + 1, n + 1 => do
    match ← object fuel with
    | .absent => fault (.absent place)
    | .value noKey => return noKey :: (← objects place fuel n)
/-- A number of stored keys. -/
def keys : (fuel : Nat) → Nat → Reading Unit
  | _, 0 => return ()
  | 0, _ => fault .missingObject
  | fuel + 1, n + 1 => do
    match ← object fuel with
    | .absent => fault (.absent "set")
    | .value (some kind) => fault (.noKey kind)
    | .value none => keys fuel n
/-- Pairs of a stored key and a stored object, which an absent one ends. -/
def pairs : (fuel : Nat) → Reading Unit
  | 0 => fault .missingObject
  | fuel + 1 => do
    match ← object fuel with
    | .absent => return ()
    | .value noKey =>
      match ← object fuel with
      | .absent => return ()
      | .value _ =>
        match noKey with
        | some kind => fault (.noKey kind)
        | none => pairs fuel
end

end Reading

/-- **What is wrong with bytes** in the place of a compiled program. -/
def faultOf (data : List UInt8) : CompiledFault :=
  let flags := number ((data.drop 4).take 4)
  if data.take 4 ≠ mark then .wrongMark (data.take 4)
  else if data.length < headerLength then .shortHeader
  else if 3 < flags then .unknownFlags flags
  else
    match StateT.run (Reading.object (2 * data.length + 2)) ⟨data.drop headerLength, 0⟩ with
    | .error fault => fault
    | .ok (.absent, _) => .absent "object"
    | .ok (.value _, _) => .noProgram

end ProseLinter.Compiled
