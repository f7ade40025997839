import ProseLinter.Value.Access
import ProseLinter.Value.Show

/-!
# Raised — the exceptions of extension code

An exception is a kind with arguments.  Most kinds take any arguments and show them as they are; the
errors of the **system** and of the **grammar** give their arguments a meaning, and those of the
grammar refuse arguments that have none.  A kind is asked for by its name, and the table
`Raised.kinds` has all names that are known.
-/

namespace ProseLinter

/-- An exception that extension code raises: the name of its kind and its arguments. -/
structure Raised where
  kind : String
  arguments : List Value
  deriving BEq, Repr, Inhabited

namespace Raised

/-! ## Errors of the system -/

/-- The kinds whose first two arguments are an error number and its description. -/
def systemKinds : List String :=
  ["OSError", "IOError", "EnvironmentError", "FileNotFoundError", "FileExistsError",
    "PermissionError", "IsADirectoryError", "NotADirectoryError", "ConnectionError",
    "BrokenPipeError", "ConnectionAbortedError", "ConnectionRefusedError", "ConnectionResetError",
    "BlockingIOError", "ChildProcessError", "InterruptedError", "ProcessLookupError",
    "TimeoutError"]

/-- The kind that an error of the system has because of its number. -/
def kindOfNumber : Int → Option String
  | 1 => some "PermissionError"
  | 2 => some "FileNotFoundError"
  | 3 => some "ProcessLookupError"
  | 4 => some "InterruptedError"
  | 10 => some "ChildProcessError"
  | 11 => some "BlockingIOError"
  | 13 => some "PermissionError"
  | 17 => some "FileExistsError"
  | 20 => some "NotADirectoryError"
  | 21 => some "IsADirectoryError"
  | 32 => some "BrokenPipeError"
  | 103 => some "ConnectionAbortedError"
  | 104 => some "ConnectionResetError"
  | 108 => some "BrokenPipeError"
  | 110 => some "TimeoutError"
  | 111 => some "ConnectionRefusedError"
  | 114 => some "BlockingIOError"
  | 115 => some "BlockingIOError"
  | _ => none

/-- The names that the general error of the system goes by. -/
def generalKinds : List String := ["OSError", "IOError", "EnvironmentError"]

/-- An error of the system: its number, what it says, and the files that it is about. -/
structure SystemError where
  number : Value
  description : Value
  file : Option Value
  other : Option Value
  deriving BEq, Repr

/-- The file that an argument names; nothing names none. -/
def fileOf : Value → Option Value
  | .none => none
  | v => some v

/-- An exception as an error of the system, which has two to five arguments.  The fourth of them
does not count, and the fifth only beside a third. -/
def systemError? (r : Raised) : Option SystemError :=
  if systemKinds.contains r.kind then
    match r.arguments with
    | [number, description] => some ⟨number, description, none, none⟩
    | number :: description :: file :: rest =>
      match rest with
      | [] => some ⟨number, description, fileOf file, none⟩
      | [_] => some ⟨number, description, fileOf file, none⟩
      | [_, other] =>
        some ⟨number, description, fileOf file, (fileOf file).bind fun _ => fileOf other⟩
      | _ => none
    | _ => none
  else none

/-- The kind of a general error of the system with a number. -/
def kindOfNumbered : Value → String
  | .int i => (kindOfNumber i).getD "OSError"
  | .bool b => (kindOfNumber (if b then 1 else 0)).getD "OSError"
  | _ => "OSError"

/-- **The kind of an exception** that is raised under a name: a general error of the system turns
into a special one by its number. -/
def className (r : Raised) : String :=
  if generalKinds.contains r.kind then
    (r.systemError?.map fun e => kindOfNumbered e.number).getD "OSError"
  else r.kind

/-- An error that can tell how far it got takes a number in place of a file. -/
def namesFile (r : Raised) : Value → Bool
  | .int _ => r.className != "BlockingIOError"
  | .bool _ => r.className != "BlockingIOError"
  | _ => true

/-- The text of an error of the system: its number first, the files last. -/
def systemText (r : Raised) (e : SystemError) : Except ValueFault (List Char) := do
  let number ← e.number.plain
  let description ← e.description.plain
  let files ←
    match e.file.filter r.namesFile, e.other with
    | none, _ => pure []
    | some file, none => do pure (": ".toList ++ (← file.written))
    | some file, some other => do
      pure (": ".toList ++ (← file.written) ++ " -> ".toList ++ (← other.written))
  return "[Errno ".toList ++ number ++ "] ".toList ++ description ++ files

/-! ## Errors of the grammar -/

/-- The kinds that tell where a program is not well formed. -/
def grammarKinds : List String := ["SyntaxError", "IndentationError", "TabError"]

/-- The place that an error of the grammar names: four items and possibly two more. -/
def placeOf (v : Value) : Option (List Value) := v.items.toOption

/-- The name of a file at the end of a path. -/
def fileName (path : List Char) : List Char := ((Text.splitOn '/' path).getLast?).getD []

/-- The largest number of a line that is shown as it is. -/
def maxLine : Int := (Nat.pow 2 63 : Int) - 1

/-- A number of a line; one that is too large either way is shown as minus one. -/
def lineText (n : Int) : List Char :=
  "line ".toList ++ Integer.text (if -maxLine - 1 ≤ n ∧ n ≤ maxLine then n else -1)

/-- Where an error of the grammar is, as far as its file is a text and its line an integer. -/
def placeText : List Value → List Char
  | .text file :: .int line :: _ =>
    " (".toList ++ fileName file.toList ++ ", ".toList ++ lineText line ++ [')']
  | .text file :: _ => " (".toList ++ fileName file.toList ++ [')']
  | _ :: .int line :: _ => " (".toList ++ lineText line ++ [')']
  | _ => []

/-- The text of an error of the grammar: what is wrong, and where. -/
def grammarText : List Value → Except ValueFault (List Char)
  | [] => Value.none.plain
  | [what, place] => do return (← what.plain) ++ placeText ((placeOf place).getD [])
  | what :: _ => what.plain

/-- What is wrong with the arguments of an error of the grammar. -/
def grammarRefusal? : List Value → Option String
  | [_, place] =>
    match placeOf place with
    | none => some ("'" ++ place.kindName ++ "' object is not iterable")
    | some items =>
      let count := String.ofList (Nat.toDigits 10 items.length)
      if items.length < 4 then some ("function takes at least 4 arguments (" ++ count ++ " given)")
      else if 6 < items.length then
        some ("function takes at most 6 arguments (" ++ count ++ " given)")
      else if items.length = 5 then
        some "end_offset must be provided when end_lineno is provided"
      else none
  | _ => none

/-! ## Making and showing exceptions -/

/-- The kinds that gather other exceptions, of which no value is one. -/
def groupKinds : List String := ["ExceptionGroup", "BaseExceptionGroup"]

/-- The kinds whose arguments have no meaning of their own. -/
def plainKinds : List String :=
  ["BaseException", "Exception", "ArithmeticError", "AssertionError", "AttributeError",
    "BufferError", "EOFError", "FloatingPointError", "GeneratorExit", "ImportError", "IndexError",
    "KeyError", "KeyboardInterrupt", "LookupError", "MemoryError", "ModuleNotFoundError",
    "NameError", "NotImplementedError", "OverflowError", "RecursionError", "ReferenceError",
    "RuntimeError", "StopAsyncIteration", "StopIteration", "SystemError", "SystemExit",
    "TypeError", "UnboundLocalError", "UnicodeError", "ValueError", "ZeroDivisionError", "Warning",
    "BytesWarning", "DeprecationWarning", "EncodingWarning", "FutureWarning", "ImportWarning",
    "PendingDeprecationWarning", "ResourceWarning", "RuntimeWarning", "SyntaxWarning",
    "UnicodeWarning", "UserWarning"]

/-- **The kinds** of exceptions, by name. -/
def kinds : List String := plainKinds ++ systemKinds ++ grammarKinds ++ groupKinds

/-- The items of a list, a tuple or a text. -/
def sequenceOf : Value → Option (List Value)
  | .table _ => none
  | v => v.items.toOption

/-- What is raised in place of a group: its arguments are a text and a sequence, none of whose items
is an exception. -/
def groupRefusal : List Value → Raised
  | [.text _, members] =>
    match sequenceOf members with
    | none => ⟨"TypeError", [.text "second argument (exceptions) must be a sequence"]⟩
    | some [] =>
      ⟨"ValueError", [.text "second argument (exceptions) must be a non-empty sequence"]⟩
    | some _ =>
      ⟨"ValueError", [.text "Item 0 of second argument (exceptions) is not an exception"]⟩
  | [v, _] =>
    let name := if v.isNone then "None" else v.kindName
    ⟨"TypeError", [.text ("argument 1 must be str, not " ++ name)]⟩
  | vs =>
    ⟨"TypeError", [.text ("BaseExceptionGroup.__new__() takes exactly 2 arguments ("
      ++ String.ofList (Nat.toDigits 10 vs.length) ++ " given)")]⟩

/-- **Making an exception** of a kind from arguments.  A kind that is not in the table is a missing
key of it, and one that refuses the arguments raises another exception in its place. -/
def make (kind : String) (arguments : List Value) : Except Raised Raised :=
  if !kinds.contains kind then .error ⟨"KeyError", [.text kind]⟩
  else if groupKinds.contains kind then .error (groupRefusal arguments)
  else if grammarKinds.contains kind then
    match grammarRefusal? arguments with
    | some reason => .error ⟨"TypeError", [.text reason]⟩
    | none => .ok ⟨kind, arguments⟩
  else .ok ⟨kind, arguments⟩

/-- The exception that is raised for a kind with arguments, whether or not it can be made. -/
def ofCall (kind : String) (arguments : List Value) : Raised :=
  match make kind arguments with
  | .ok exception => exception
  | .error refusal => refusal

/-- The text of an exception whose arguments have no meaning of their own: the only one, or all of
them as a tuple.  A missing key is quoted. -/
def plainText (r : Raised) : Except ValueFault (List Char) :=
  match r.arguments with
  | [] => .ok []
  | [v] => if r.kind = "KeyError" then v.written else v.plain
  | vs => (Value.tuple vs).written

/-- **The text of an exception.** -/
def text (r : Raised) : Except ValueFault (List Char) :=
  match r.systemError? with
  | some e => r.systemText e
  | none =>
    if grammarKinds.contains r.kind then grammarText r.arguments else r.plainText

end Raised

end ProseLinter
