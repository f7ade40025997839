import ProseLinter.Toml.Fault

/-!
# Toml/Text — blanks, comments, texts and keys
-/

namespace ProseLinter.Toml

def isSpace (c : Char) : Bool := c == ' ' || c == '\t'

def isSpaceOrNewline (c : Char) : Bool := isSpace c || c == '\n'

def skipSpace (cs : List Char) : List Char := cs.dropWhile isSpace

/-- The control characters that no text on one line holds. -/
def isIllegal (c : Char) : Bool := (c.toNat < 32 && c != '\t') || c.toNat == 127

/-- The control characters that no text on several lines holds. -/
def isIllegalInLines (c : Char) : Bool := isIllegal c && c != '\n'

/-- The text up to a delimiter, and what starts with the delimiter. -/
def upTo? (delimiter : List Char) : List Char → Option (List Char × List Char)
  | [] => none
  | c :: cs =>
    if delimiter.isPrefixOf (c :: cs) then some ([], c :: cs)
    else (upTo? delimiter cs).map fun (before, rest) => (c :: before, rest)

/-- The first illegal character of a text, which `rest` follows. -/
def checkLegal (illegal : Char → Bool) (cs rest : List Char) : Except Fault Unit :=
  match cs.dropWhile fun c => !illegal c with
  | [] => .ok ()
  | c :: more => .error ⟨.invalidCharacter c, (c :: more).length + rest.length⟩

/-- A text from its first line feed on. -/
def afterLine (cs : List Char) : List Char := cs.dropWhile (· ≠ '\n')

theorem length_afterLine_le (cs : List Char) : (afterLine cs).length ≤ cs.length :=
  (List.dropWhile_sublist _).length_le

/-- What follows a comment, after its mark. -/
def commentEnd (cs : List Char) : Except Fault (List Char) := do
  checkLegal isIllegal (cs.takeWhile (· ≠ '\n')) (afterLine cs)
  return afterLine cs

/-- What follows a comment, where one starts. -/
def skipComment : List Char → Except Fault (List Char)
  | '#' :: cs => commentEnd cs
  | cs => .ok cs

/-- What is left after some characters and a mark is shorter than the text. -/
theorem length_afterLine_lt {p : Char → Bool} {cs rest : List Char} {mark : Char}
    (h : cs.dropWhile p = mark :: rest) : (afterLine rest).length < cs.length := by
  have h₁ := (List.dropWhile_sublist (l := cs) p).length_le
  have h₂ := length_afterLine_le rest
  rw [h] at h₁
  simp only [List.length_cons] at h₁
  omega

/-- What follows blanks, line breaks and comments. -/
def skipBlanks (cs : List Char) : Except Fault (List Char) :=
  match h : cs.dropWhile isSpaceOrNewline with
  | '#' :: rest =>
    have := length_afterLine_lt h
    match commentEnd rest with
    | .ok _ => skipBlanks (afterLine rest)
    | .error fault => .error fault
  | rest => .ok rest
termination_by cs.length

/-- A text that is taken as it is, up to its delimiter. -/
def literalText (delimiter : List Char) (illegal : Char → Bool) (cs : List Char) :
    Except Fault (List Char × List Char) :=
  match upTo? delimiter cs with
  | none => fail (.missingEnd delimiter) []
  | some (body, rest) => do
    checkLegal illegal body rest
    return (body, rest.drop delimiter.length)

/-- The character that a number of hexadecimal digits stands for. -/
def hexCharacter (count : Nat) (cs : List Char) : Except Fault (List Char × List Char) :=
  let digits := cs.take count
  let rest := cs.drop count
  if digits.length = count then
    match Text.readHex? digits with
    | some n =>
      if h : n.isValidChar then .ok ([Char.ofNatAux n h], rest) else fail .notCharacter rest
    | none => fail .hexDigits cs
  else fail .hexDigits cs

/-- What follows a backslash at the end of a line: the blanks of this line and of the next ones. -/
def joinedLine (cs : List Char) : Except Fault (List Char × List Char) :=
  match skipSpace cs with
  | [] => .ok ([], [])
  | '\n' :: rest => .ok ([], rest.dropWhile isSpaceOrNewline)
  | rest => fail .strayBackslash rest

/-- The characters that an escape stands for; `cs` follows the backslash. -/
def escaped (lines : Bool) (cs : List Char) : Except Fault (List Char × List Char) :=
  match cs with
  | c :: rest =>
    if lines && isSpaceOrNewline c then joinedLine cs
    else if c = 'u' then hexCharacter 4 rest
    else if c = 'U' then hexCharacter 8 rest
    else if c = 'b' then .ok (['\x08'], rest)
    else if c = 't' then .ok (['\t'], rest)
    else if c = 'n' then .ok (['\n'], rest)
    else if c = 'f' then .ok (['\x0c'], rest)
    else if c = 'r' then .ok (['\r'], rest)
    else if c = '"' ∨ c = '\\' then .ok ([c], rest)
    else fail .strayBackslash rest
  | [] => fail .strayBackslash []

/-- A text with escapes, up to its closing quote, or to three of them when it has several lines. -/
def basicText (lines : Bool) : (fuel : Nat) → List Char → Except Fault (List Char × List Char)
  | 0, cs => fail .openText cs
  | _ + 1, [] => fail .openText []
  | fuel + 1, c :: cs =>
    if c = '"' then
      if !lines then .ok ([], cs)
      else if ['"', '"'].isPrefixOf cs then .ok ([], cs.drop 2)
      else do
        let (body, rest) ← basicText lines fuel cs
        return (c :: body, rest)
    else if c = '\\' then do
      let (part, rest) ← escaped lines cs
      let (body, rest) ← basicText lines fuel rest
      return (part ++ body, rest)
    else if (if lines then isIllegalInLines c else isIllegal c) then
      fail (.illegalCharacter c) (c :: cs)
    else do
      let (body, rest) ← basicText lines fuel cs
      return (c :: body, rest)

/-- Up to two more quotes belong to a text that three quotes close. -/
def extraQuotes (quote : Char) : List Char × List Char → List Char × List Char
  | (body, c :: d :: rest) =>
    if c = quote then
      if d = quote then (body ++ [quote, quote], rest) else (body ++ [quote], d :: rest)
    else (body, c :: d :: rest)
  | (body, [c]) => if c = quote then (body ++ [quote], []) else (body, [c])
  | (body, []) => (body, [])

/-- A line break just after the opening quotes is no part of the text. -/
def withoutFirstNewline : List Char → List Char
  | '\n' :: cs => cs
  | cs => cs

/-- **A text**, where a quote stands in front. -/
def text? : List Char → Option (Except Fault (List Char × List Char))
  | '"' :: '"' :: '"' :: cs =>
    let cs := withoutFirstNewline cs
    some ((basicText true (cs.length + 1) cs).map (extraQuotes '"'))
  | '"' :: cs => some (basicText false (cs.length + 1) cs)
  | '\'' :: '\'' :: '\'' :: cs =>
    some ((literalText ['\'', '\'', '\''] isIllegalInLines (withoutFirstNewline cs)).map
      (extraQuotes '\''))
  | '\'' :: cs => some (literalText ['\''] isIllegal cs)
  | _ => none

/-! ## Keys -/

def isBare (c : Char) : Bool := c.isAlphanum || c == '-' || c == '_'

/-- Whether a key may start with the character. -/
def startsKey (c : Char) : Bool := isBare c || c == '"' || c == '\''

/-- One part of a dotted key. -/
def keyPart : List Char → Except Fault (String × List Char)
  | '\'' :: cs => (literalText ['\''] isIllegal cs).map fun (s, rest) => (String.ofList s, rest)
  | '"' :: cs =>
    (basicText false (cs.length + 1) cs).map fun (s, rest) => (String.ofList s, rest)
  | cs =>
    if (cs.head?.map isBare).getD false then
      .ok (String.ofList (cs.takeWhile isBare), cs.dropWhile isBare)
    else fail .keyStart cs

/-- The parts of a dotted key. -/
def keyParts : (fuel : Nat) → List Char → Except Fault (Key × List Char)
  | 0, cs => fail .keyStart cs
  | fuel + 1, cs => do
    let (part, rest) ← keyPart cs
    match skipSpace rest with
    | '.' :: rest =>
      let (parts, rest) ← keyParts fuel (skipSpace rest)
      return (part :: parts, rest)
    | rest => return ([part], rest)

/-- **A dotted key.** -/
def key (cs : List Char) : Except Fault (Key × List Char) := keyParts (cs.length + 1) cs

end ProseLinter.Toml
