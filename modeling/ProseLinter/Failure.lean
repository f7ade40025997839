import ProseLinter.Raised

/-!
# Failure — why something could not be done

One type of causes for the whole linter, and the text that each of them has for a reader.
-/

namespace ProseLinter

/-- Why an edit could not be made. -/
inductive EditFault where
  /-- The range has another number of items than two. -/
  | wrongCount (items : List Value)
  /-- The range starts after its end. -/
  | reversed (start stop : Value)
  /-- Nothing was to be inserted. -/
  | emptyInsertion
  deriving BEq, Repr

/-- How a rule may misuse its report. -/
inductive Misuse where
  /-- The finding was given where the node belongs. -/
  | findingAsNode
  /-- The payload asks for a severity that does not exist. -/
  | unknownSeverity (rule : String) (asked : Value)
  deriving BEq, Repr

/-- What is wrong with a compiled program. -/
inductive CompiledFault where
  /-- The mark in front is not that of a compiled program. -/
  | wrongMark (found : List UInt8)
  /-- The bytes end within the header. -/
  | shortHeader
  | unknownFlags (flags : Nat)
  /-- The bytes end where an object is to start. -/
  | missingObject
  /-- The bytes end within an object. -/
  | shortObject
  /-- What is stored is no program. -/
  | noProgram
  /-- A mark of absence stands in the place of an object. -/
  | absent (place : String)
  /-- What is stored as a key of a table or a set cannot be one. -/
  | noKey (kind : String)
  /-- What is stored as a number is none. -/
  | notNumber (text : List Char)
  /-- A stored text cannot be decoded. -/
  | undecodable
  | badData (reason : String)
  deriving DecidableEq, Repr

/-- Why the operating system refused a file. -/
inductive FileFault where
  | missing
  | taken
  | isDirectory
  | notDirectory
  | nameTooLong
  | tooManyLinks
  /-- The name holds a null character. -/
  | nullCharacter
  deriving DecidableEq, Repr

/-- What went wrong while an extension was loaded. -/
inductive LoadCause where
  /-- No extension has the name. -/
  | unresolved (name : String)
  /-- The extension exports nothing that can be called. -/
  | notCallable (label member : String)
  /-- The code of the extension raised. -/
  | raised (exception : Raised)
  /-- The source is no program. -/
  | notSource
  /-- The source holds a null character. -/
  | nullCharacter
  /-- The file holds no machine code. -/
  | notNative (path : String)
  /-- The compiled form cannot be used. -/
  | compiled (path moduleName : String) (fault : CompiledFault)
  /-- The import path does not offer the module. -/
  | missingModule (name : String)
  /-- A module has no name. -/
  | unnamedModule
  /-- The name of a module starts with a dot, and there is nothing that it is relative to. -/
  | relativeModule (name : String)
  /-- The file cannot be read. -/
  | unreadable (path : String) (fault : FileFault)
  /-- The links of the file's path lead back to themselves. -/
  | linkLoop (path : String)
  /-- The file's path holds a null character. -/
  | nullInPath
  deriving BEq, Repr

/-- An extension that could not be loaded, the cause if there is one, and what was being done. -/
structure LoadFailure where
  name : String
  cause : Option LoadCause
  purpose : String
  deriving BEq, Repr

/-- **Why something could not be done.** -/
inductive Failure where
  | value (fault : ValueFault)
  | unknownSeverity (asked : Value)
  | edit (fault : EditFault)
  | misuse (misuse : Misuse)
  | raised (exception : Raised)
  | load (failure : LoadFailure)
  | file (fault : FileFault)
  /-- The links of a path lead back to themselves. -/
  | linkLoop
  /-- The bytes of a file are no text. -/
  | undecodable
  deriving BEq, Repr

/-- What is said of an integer that has too many digits. -/
def tooManyDigitsText : List Char :=
  "Exceeds the limit (".toList ++ Nat.toDigits 10 Integer.maxDigits
    ++ " digits) for integer string conversion; ".toList
    ++ "use sys.set_int_max_str_digits() to increase the limit".toList

/-- What reporting a value that does not name a severity says. -/
def unknownSeverityText (asked : Value) : List Char :=
  if asked.isWritable then
    "Unknown severity ".toList ++ asked.quoted ++ ", expected one of ".toList
      ++ (Value.list (Severity.aliases.map fun a => .text a.1)).quoted ++ " or 0-2".toList
  else tooManyDigitsText

/-- A value inside a message. -/
def Value.inMessage (v : Value) : List Char :=
  match v.plain with
  | .ok cs => cs
  | .error _ => v.quoted

namespace EditFault

def text : EditFault → List Char
  | wrongCount items => "Fix range must be [start, end], got ".toList ++ (Value.list items).quoted
  | reversed start stop =>
    "Fix range start ".toList ++ start.inMessage ++ " is after end ".toList ++ stop.inMessage
  | emptyInsertion => "Inserted text must be a non-empty string".toList

/-- Whether the text of a fault can be written. -/
def isWritable : EditFault → Bool
  | wrongCount items => Value.areWritable items
  | reversed start stop => start.isWritable && stop.isWritable
  | emptyInsertion => true

/-- **The failure of a fault**: that of writing its text, where it cannot be written. -/
def failure (fault : EditFault) : Failure :=
  if fault.isWritable then .edit fault else .value .tooManyDigits

end EditFault

namespace Misuse

def text : Misuse → List Char
  | findingAsNode => "should be `report(node, rule_error)`".toList
  | unknownSeverity rule asked => rule.toList ++ ": ".toList ++ unknownSeverityText asked

end Misuse

namespace CompiledFault

/-- Bytes in quotes, as a text of bytes. -/
def bytesText (data : List UInt8) : List Char :=
  'b' :: Text.quote (data.map fun b => Char.ofNat b.toNat)

/-- The text of a fault of the compiled program at a path, which was to become a module. -/
def text (path moduleName : String) : CompiledFault → List Char
  | wrongMark found =>
    "bad magic number in ".toList ++ Text.quote moduleName.toList ++ ": ".toList ++ bytesText found
  | shortHeader => "reached EOF while reading pyc header of ".toList ++ Text.quote moduleName.toList
  | unknownFlags flags =>
    "invalid flags ".toList ++ Nat.toDigits 10 flags ++ " in ".toList
      ++ Text.quote moduleName.toList
  | missingObject => "EOF read where object expected".toList
  | shortObject => "marshal data too short".toList
  | noProgram => "Non-code object in ".toList ++ Text.quote path.toList
  | absent place => "NULL object in marshal data for ".toList ++ place.toList
  | noKey kind => "unhashable type: ".toList ++ Text.quote kind.toList
  | notNumber text => "could not convert string to float: ".toList ++ Text.quote text
  | undecodable => "invalid text".toList
  | badData reason => "bad marshal data (".toList ++ reason.toList ++ [')']

end CompiledFault

namespace FileFault

/-- The number and the description of a fault of the operating system. -/
def describe : FileFault → Nat × String
  | missing => (2, "No such file or directory")
  | taken => (17, "File exists")
  | isDirectory => (21, "Is a directory")
  | notDirectory => (20, "Not a directory")
  | nameTooLong => (36, "File name too long")
  | tooManyLinks => (40, "Too many levels of symbolic links")
  | nullCharacter => (22, "Invalid argument")

def text (f : FileFault) (path : String) : List Char :=
  "[Errno ".toList ++ Nat.toDigits 10 f.describe.1 ++ "] ".toList ++ f.describe.2.toList
    ++ ": ".toList ++ Text.quote path.toList

end FileFault

namespace LoadCause

/-- The text of a cause. -/
def text : LoadCause → Except ValueFault (List Char)
  | unresolved name =>
    .ok ("No extension named ".toList ++ Text.quote name.toList ++ " could be resolved".toList)
  | notCallable label member =>
    .ok (label.toList ++ " does not export a callable: expected `default` or `".toList
      ++ member.toList ++ ['\x60'])
  | raised exception => exception.text
  | notSource => .ok "invalid syntax".toList
  | nullCharacter => .ok "source code string cannot contain null bytes".toList
  | notNative path => .ok (path.toList ++ ": file too short".toList)
  | compiled path moduleName fault => .ok (fault.text path moduleName)
  | missingModule name => .ok ("No module named ".toList ++ Text.quote name.toList)
  | unnamedModule => .ok "Empty module name".toList
  | relativeModule name =>
    .ok ("the 'package' argument is required to perform a relative import for ".toList
      ++ Text.quote name.toList)
  | unreadable path fault => .ok (fault.text path)
  | linkLoop path => .ok ("Symlink loop from ".toList ++ Text.quote path.toList)
  | nullInPath => .ok "embedded null byte".toList

end LoadCause

namespace LoadFailure

/-- What a failed load says when nothing more is known about its purpose. -/
def defaultPurpose (name : String) : String := "Could not load extension " ++ name

/-- A failed load: the purpose, and the cause on a line of its own. -/
def text (f : LoadFailure) : Except ValueFault (List Char) :=
  match f.cause with
  | none => .ok f.purpose.toList
  | some cause => do return f.purpose.toList ++ '\n' :: (← cause.text)

/-- **The failure of a load**: that of writing its text, where it cannot be written. -/
def failure (f : LoadFailure) : Failure :=
  match f.text with
  | .ok _ => .load f
  | .error fault => .value fault

/-- A failed load of an extension for its own sake. -/
def ofCause (name : String) (cause : LoadCause) : LoadFailure :=
  ⟨name, some cause, defaultPurpose name⟩

end LoadFailure

namespace Failure

/-- **The message** of a failure that has one. -/
def message? : Failure → Option (List Char)
  | unknownSeverity asked => if asked.isWritable then some (unknownSeverityText asked) else none
  | edit fault => some fault.text
  | misuse m => some m.text
  | load f => f.text.toOption
  | _ => none

end Failure

end ProseLinter
