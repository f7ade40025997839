import ProseLinter.Value.Show

/-!
# Toml/Fault — what is wrong with a TOML text

A fault has a cause and a place.  While a text is read, a place is the number of characters that are
left; in a message it is a line and a column.
-/

namespace ProseLinter.Toml

/-- A dotted key. -/
abbrev Key := List String

/-- What is wrong. -/
inductive Cause where
  | statement
  | statementEnd
  | missingEnd (delimiter : List Char)
  | invalidCharacter (c : Char)
  | illegalCharacter (c : Char)
  | declaredTwice (key : Key)
  | frozen (key : Key)
  | redefined (key : Key)
  | overwritten
  | tableEnd
  | arrayTableEnd
  | missingEquals
  | keyStart
  | openArray
  | openTable
  | duplicateKey (name : String)
  | strayBackslash
  | hexDigits
  | notCharacter
  | openText
  | moment
  | value
  /-- More digits than are read; no fault of the text. -/
  | tooManyDigits
  /-- Arrays and inline tables within each other, more than are read. -/
  | tooDeep
  deriving DecidableEq, Repr

/-- What is wrong, and how many characters are left where it was found. -/
structure Fault where
  cause : Cause
  left : Nat
  deriving DecidableEq, Repr

/-- A key as a tuple of texts. -/
def keyText (key : Key) : List Char := (Value.tuple (key.map .text)).quoted

namespace Cause

def text : Cause → List Char
  | statement => "Invalid statement".toList
  | statementEnd => "Expected newline or end of document after a statement".toList
  | missingEnd delimiter => "Expected ".toList ++ Text.quote delimiter
  | invalidCharacter c => "Found invalid character ".toList ++ Text.quote [c]
  | illegalCharacter c => "Illegal character ".toList ++ Text.quote [c]
  | declaredTwice key => "Cannot declare ".toList ++ keyText key ++ " twice".toList
  | frozen key => "Cannot mutate immutable namespace ".toList ++ keyText key
  | redefined key => "Cannot redefine namespace ".toList ++ keyText key
  | overwritten => "Cannot overwrite a value".toList
  | tableEnd => "Expected ']' at the end of a table declaration".toList
  | arrayTableEnd => "Expected ']]' at the end of an array declaration".toList
  | missingEquals => "Expected '=' after a key in a key/value pair".toList
  | keyStart => "Invalid initial character for a key part".toList
  | openArray => "Unclosed array".toList
  | openTable => "Unclosed inline table".toList
  | duplicateKey name => "Duplicate inline table key ".toList ++ Text.quote name.toList
  | strayBackslash => "Unescaped '\\' in a string".toList
  | hexDigits => "Invalid hex value".toList
  | notCharacter => "Escaped character is not a Unicode scalar value".toList
  | openText => "Unterminated string".toList
  | moment => "Invalid date or datetime".toList
  | value => "Invalid value".toList
  | tooManyDigits => "Too many digits".toList
  | tooDeep => "Too deep".toList

end Cause

/-- The place in a text where `left` characters are left. -/
def placeText (source : List Char) (left : Nat) : List Char :=
  if left = 0 then "end of document".toList
  else
    let read := source.take (source.length - left)
    let column := (read.reverse.takeWhile (· ≠ '\n')).length + 1
    "line ".toList ++ Integer.text (read.count '\n' + 1) ++ ", column ".toList
      ++ Integer.text column

/-- **The message** of a fault in a text. -/
def Fault.text (source : List Char) (f : Fault) : List Char :=
  f.cause.text ++ " (at ".toList ++ placeText source f.left ++ [')']

/-- A fault at the place where `rest` is left. -/
def fail {α : Type} (cause : Cause) (rest : List Char) : Except Fault α :=
  .error ⟨cause, rest.length⟩

end ProseLinter.Toml
