import ProseLinter.Rule.Basic

/-!
# Rule/Markers — markers of unfinished work

The rule reports each occurrence of a configured word that stands between word boundaries.  The text
is read from the left: where one word is found, the search goes on after it and after a colon that
follows it.
-/

namespace ProseLinter.Markers

/-- The words that are looked for when none are configured. -/
def defaultWords : List String := ["TODO", "FIXME"]

/-- Whether there is a word character at an end of the text or elsewhere. -/
def isWordAt (c : Option Char) : Bool := (c.map Text.isWord).getD false

/-- **A word boundary**: of the characters on both sides, one is a word character and one is not. -/
def isBoundary (before after : Option Char) : Bool := isWordAt before != isWordAt after

/-- The last character of a text, or else the one before it. -/
def lastOr (before : Option Char) (cs : List Char) : Option Char :=
  match cs.getLast? with
  | some c => some c
  | none => before

/-- How many characters an occurrence of `word` at the front of `rest` takes up, with the colon that
may follow it. -/
def extent? (before : Option Char) (rest word : List Char) : Option Nat :=
  if isBoundary before rest.head? && word.isPrefixOf rest then
    let after := rest.drop word.length
    if isBoundary (lastOr before word) after.head? then
      some (if after.head? = some ':' then word.length + 1 else word.length)
    else none
  else none

/-- The first of the words that occurs at the front of `rest` and takes up at least `least`
characters. -/
def firstAt (words : List (List Char)) (least : Nat) (before : Option Char) (rest : List Char) :
    Option (List Char × Nat) :=
  words.findSome? fun word =>
    match extent? before rest word with
    | some n => if least ≤ n then some (word, n) else none
    | none => none

/-- **The occurrences** of words in a text that starts at offset `i`, with their offsets; the first
`skip` characters have been used up.  An occurrence that takes up nothing does not move the search
on, so that a longer one may follow at the same place. -/
def occurrences (words : List (List Char)) (i skip : Nat) (before : Option Char) :
    List Char → List (Nat × List Char)
  | [] =>
    if skip = 0 then
      match firstAt words 0 before [] with
      | some (word, _) => [(i, word)]
      | none => []
    else []
  | c :: cs =>
    match skip with
    | skip + 1 => occurrences words (i + 1) skip (some c) cs
    | 0 =>
      match firstAt words 0 before (c :: cs) with
      | none => occurrences words (i + 1) 0 (some c) cs
      | some (word, n + 1) => (i, word) :: occurrences words (i + 1) n (some c) cs
      | some (word, 0) =>
        (i, word) ::
          match firstAt words 1 before (c :: cs) with
          | some (word, n) => (i, word) :: occurrences words (i + 1) (n - 1) (some c) cs
          | none => occurrences words (i + 1) 0 (some c) cs

/-- What is said about an occurrence of a word on a line. -/
def message (word raw : List Char) : List Char :=
  "Found ".toList ++ word ++ ": '".toList ++ Text.strip Text.isBlank raw ++ ['\'']

/-- The reports of occurrences on a line. -/
def reportAll (context : Context) (n : TextNode) : List (Nat × List Char) →
    Except Failure (List Report)
  | [] => .ok []
  | (i, word) :: rest => do
    let finding := Value.finding
      ⟨.ofChars (message word n.raw), .int i, .none, .none, .none⟩
    return (← context.report (.node n) finding) :: (← reportAll context n rest)

/-- What the rule makes of one line. -/
def onLine (words : List (List Char)) (context : Context) (n : TextNode) :
    Except Failure (List Report) :=
  reportAll context n (occurrences words 0 0 none n.raw)

/-- The words among values; every one has to be a text. -/
def textsOf : List Value → Except Failure (List (List Char))
  | [] => .ok []
  | .text s :: rest => do return s.toList :: (← textsOf rest)
  | _ :: _ => .error (.value .wrongKind)

/-- The words that the options ask for. -/
def wordsOf (options : List (String × Value)) : Except Failure (List (List Char)) :=
  match options.lookup "words" with
  | none => .ok (defaultWords.map String.toList)
  | some v => do textsOf (← Fix.lift v.items)

/-- **The rule.** -/
def rule : Rule := fun context options => do
  let words ← wordsOf options
  if words.isEmpty then return .idle
  return ⟨[], [(Document.lineKind, onLine words context)]⟩

end ProseLinter.Markers
