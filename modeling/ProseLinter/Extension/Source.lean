import ProseLinter.Extension.Workspace
import ProseLinter.Text.Encoding

/-!
# Extension/Source — programs as plain sources

A source of blank lines and comments is a program that does nothing.  A comment in one of its first
two lines may **declare** the encoding of the bytes; without a declaration the bytes of comments are
not looked at.  A source with one more line, which raises an exception about a number, is a program
that raises it.  No other source is read as a program.
-/

namespace ProseLinter.Source

/-- A byte as the character with its number. -/
def charOf (b : UInt8) : Char := Char.ofNat b.toNat

def isIndent (c : Char) : Bool := c == ' ' || c == '\t' || c == '\x0c'

/-- What a line holds apart from its indentation. -/
inductive LineKind where
  | blank
  /-- A backslash at the end, which joins the next line. -/
  | joined
  | busy
  deriving DecidableEq, Repr

/-- The kind of a line; one with nothing but a comment is blank. -/
def kindOf (line : List Char) : LineKind :=
  match line.dropWhile isIndent with
  | [] => .blank
  | ['\\'] => .joined
  | c :: _ => if c = '#' then .blank else .busy

/-- Whether lines hold nothing but comments; there has to be a line to join. -/
def areIdle : List (List Char) → Bool
  | [] => true
  | line :: rest =>
    match kindOf line with
    | .blank => areIdle rest
    | .joined => !rest.isEmpty && areIdle rest
    | .busy => false

/-- The lines of a source, without an empty one at the end. -/
def linesOf (cs : List Char) : List (List Char) :=
  let parts := Text.splitOn '\n' (Text.lineFeeds cs)
  if parts.getLast? = some [] then parts.dropLast else parts

def isNameChar (c : Char) : Bool := c.isAlphanum || c == '-' || c == '_' || c == '.'

/-- The word in front of a declared name. -/
def declarationWord : List Char := "coding".toList

/-- The name that is declared right here, if one is. -/
def declaredHere? (cs : List Char) : Option (List Char) :=
  if declarationWord.isPrefixOf cs then
    match cs.drop declarationWord.length with
    | c :: rest =>
      if c = ':' ∨ c = '=' then
        match (rest.dropWhile fun d => d == ' ' || d == '\t').takeWhile isNameChar with
        | [] => none
        | name => some name
      else none
    | [] => none
  else none

/-- **The name of the encoding that a line declares.** -/
def declared? : List Char → Option (List Char)
  | [] => none
  | c :: cs =>
    match declaredHere? (c :: cs) with
    | some name => some name
    | none => declared? cs

/-- The name that one of the first two lines declares.  The second line counts after a blank one
only. -/
def declaredIn? : List (List Char) → Option (List Char)
  | [] => none
  | first :: rest =>
    match declared? first with
    | some name => some name
    | none => if kindOf first = .blank then (rest.head?).bind declared? else none

/-- The front of a name that decides whether it is one of the usual ones. -/
def shortName (name : List Char) : List Char :=
  (name.take 12).map fun c => if c = '_' then '-' else c.toLower

/-- Whether a name is another one, or that one with an addition after a hyphen. -/
def isVariantOf (name : List Char) (standard : String) : Bool :=
  name == standard.toList || (standard ++ "-").toList.isPrefixOf name

/-- What a declaration comes to. -/
inductive Declaration where
  /-- The usual encoding, which is taken on trust. -/
  | usual
  | named (name : List Char)
  deriving DecidableEq, Repr

namespace Declaration

def ofName (name : List Char) : Declaration :=
  let short := shortName name
  if isVariantOf short "utf-8" then usual
  else if ["latin-1", "iso-8859-1", "iso-latin-1"].any (isVariantOf short) then
    named "iso-8859-1".toList
  else named name

end Declaration

/-- The mark of the usual encoding at the front of some bytes. -/
def byteMark : List UInt8 := [0xEF, 0xBB, 0xBF]

/-- Whether bytes with a declaration can be decoded; the mark in front has to agree with it. -/
def agrees (data : List UInt8) (marked : Bool) : Option Declaration → Bool
  | none => true
  | some .usual => true
  | some (.named name) =>
    !marked && ((Text.Encoding.ofName? name).map fun e => e.decodes data).getD false

/-- **Whether bytes are a source that does nothing.** -/
def isIdle (data : List UInt8) : Bool :=
  let marked := byteMark.isPrefixOf data
  let body := if marked then data.drop byteMark.length else data
  let lines := linesOf (body.map charOf)
  areIdle lines && agrees body marked ((declaredIn? lines).map Declaration.ofName)

/-! ## Sources that raise -/

/-- The number that a numeral stands for.  No zeros are put in front, and it is short enough to be
read. -/
def numeral? (cs : List Char) : Option Nat :=
  let n := Nat.ofDigitChars 10 cs 0
  if cs = Nat.toDigits 10 n ∧ cs.length ≤ Integer.maxDigits then some n else none

/-- The number that a numeral stands for, or a power of one with another. -/
def power? (cs : List Char) : Option Nat :=
  match Text.splitOn '*' cs with
  | [base] => numeral? base
  | [base, [], exponent] => do return Nat.pow (← numeral? base) (← numeral? exponent)
  | _ => none

/-- The word that raises an exception. -/
def raiseWord : List Char := "raise".toList

/-- The exception that a line raises: the word, a kind, and a number in parentheses. -/
def raisedBy? (line : List Char) : Option Raised :=
  match Text.splitOn '(' line with
  | [front, back] =>
    match Text.splitOn ' ' front, Text.splitOn ')' back with
    | [word, kind], [number, []] =>
      if word = raiseWord ∧ Raised.kinds.contains (String.ofList kind) then
        (power? number).map fun n : Nat => .ofCall (String.ofList kind) [.int n]
      else none
    | _, _ => none
  | _ => none

/-- **The exception that bytes raise as a source**: all but one of the lines are blank, and that one
raises it.  The bytes are ASCII, and nothing else is declared. -/
def raised? (data : List UInt8) : Option Raised :=
  let lines := linesOf (data.map charOf)
  if data.all (· < 0x80) && (declaredIn? lines).isNone then
    match lines.filter fun line => kindOf line ≠ .blank with
    | [line] => raisedBy? line
    | _ => none
  else none

/-- **The program in the bytes of a source.** -/
def program? (data : List UInt8) : Option Program :=
  if isIdle data then some .idle else (raised? data).map .raising

end ProseLinter.Source
