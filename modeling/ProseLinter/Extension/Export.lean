import ProseLinter.Json.Described
import ProseLinter.Layout.Reporter
import ProseLinter.Rule.Bundled
import ProseLinter.Rule.Script
import ProseLinter.Value.Method

/-!
# Extension/Export — what an extension exports

An extension is used through one **callable**.  It is what the module exports under `default`, or
else under the name that its family asks for; an export that can itself be called stands for itself.
-/

namespace ProseLinter

/-- Something that can be called. -/
inductive Callable where
  /-- A function, known by its tag. -/
  | function (tag : String)
  /-- The setup of a rule that a script describes. -/
  | script (script : Script) (tag : String)
  /-- A class, which makes no instance from two arguments. -/
  | maker (className : String)
  /-- An object that can be called and gives nothing. -/
  | silent (tag : String)
  /-- A function that serves another purpose than rules and formatters. -/
  | helper (name : String)
  | reporter (reporter : Reporter)
  | bundled (rule : BundledRule)
  deriving Repr, Inhabited

namespace Callable

/-- The tag of a callable; helpers and what comes with the linter have none. -/
def tag : Callable → Option String
  | function tag => some tag
  | script _ tag => some tag
  | maker name => some ("class " ++ name)
  | silent tag => some tag
  | helper _ => none
  | reporter _ => none
  | bundled _ => none

/-- **The callable as a rule.**  Only a script or a bundled rule makes something of a context. -/
def rule : Callable → Rule
  | script s _ => s.rule
  | bundled r => r.rule
  | silent _ => fun _ _ => .ok .idle
  | _ => fun _ _ => .error (.value .wrongKind)

end Callable

/-- What a formatter is configured with. -/
structure FormatterConfig where
  name : String
  color : Bool
  options : List (String × Value)
  deriving BEq, Repr

/-- What a formatter gives: a text, nothing, or the handlers of a rule that was taken for one. -/
inductive Formatted where
  | text (text : List Char)
  | nothing
  | handlers
  deriving BEq, Repr

namespace Formatted

/-- The text to print, if there is one. -/
def toText : Formatted → List Char
  | text cs => cs
  | _ => []

end Formatted

namespace Callable

/-- The members of an object in the order of their names. -/
def sortedMembers (members : List (String × Json)) : List (String × Json) :=
  members.mergeSort fun a b => decide (¬ b.1 < a.1)

mutual
/-- A JSON value with all members in the order of their names. -/
def sortJson : Json → Json
  | .array items => .array (sortJsonItems items)
  | .object members => .object (sortedMembers (sortJsonMembers members))
  | j => j
def sortJsonItems : List Json → List Json
  | [] => []
  | j :: js => sortJson j :: sortJsonItems js
def sortJsonMembers : List (String × Json) → List (String × Json)
  | [] => []
  | (k, j) :: ms => (k, sortJson j) :: sortJsonMembers ms
end

/-- What a function says of a call: its tag, the number of files, and the configuration with its
options described. -/
def callText (tag : String) (results : Results) (config : FormatterConfig) :
    Except ValueFault (List Char) := do
  let options ← describedEntries config.options
  return Text.join ['|']
    [ tag.toList, Integer.text results.count, (Value.bool config.color).quoted,
      config.name.toList, Json.write .inline (sortJson (.object options)) ]

/-- A script in the place of a formatter.  Without a node its first action cannot look at one, and
there is no context to report to. -/
def formatByScript (s : Script) : Except Failure Formatted :=
  match s.onSetup with
  | [] => .ok (if s.handlers.isSome then .handlers else .nothing)
  | action :: _ =>
    match action.condition.holds none, action.effect with
    | .error e, _ => .error e
    | .ok _, .report .. => .error (.value .missingField)
    | .ok _, .raise kind arguments =>
      match Script.fillItems Script.Scene.empty arguments with
      | .ok arguments => .error (.raised (Raised.ofCall kind arguments))
      | .error e => .error e

/-- **The callable as a formatter.** -/
def format (results : Results) (config : FormatterConfig) : Callable → Except Failure Formatted
  | function tag => (Fix.lift (callText tag results config)).map .text
  | silent _ => .ok .nothing
  | reporter r => (Fix.lift (r.format config.color results)).map .text
  | script s _ => formatByScript s
  | maker _ => .error (.value .wrongKind)
  | helper _ => .error (.value .wrongKind)
  | bundled _ => .error (.value .missingField)

end Callable

/-- **An export**: a callable, a plain value, or something with attributes. -/
inductive Export where
  | callable (c : Callable)
  | plain (v : Value)
  | type (name : String) (attributes : List (String × Export))
  | module (name : String) (attributes : List (String × Export))
  | object (className : String) (attributes : List (String × Export)) (tag : Option String)
  deriving Inhabited

namespace Export

/-- The callable that an export is, if it can be called. -/
def callable? : Export → Option Callable
  | callable c => some c
  | type name _ => some (.maker name)
  | object _ _ (some tag) => some (.silent tag)
  | _ => none

/-- The attributes of an export. -/
def attributes : Export → List (String × Export)
  | type _ as => as
  | module _ as => as
  | object _ as _ => as
  | _ => []

/-- Whether an export is a callable for its own sake: not a class, not a module. -/
def standsAlone : Export → Bool
  | type .. => false
  | module .. => false
  | _ => true

/-- The methods that an export has by its kind. -/
def methods : Export → List String
  | plain v => v.methods
  | type .. => Value.classMethods ++ Value.commonMethods ++ [Value.hashMethod]
  | _ => Value.commonMethods ++ [Value.hashMethod]

/-- The name of the class of an export. -/
def className : Export → String
  | callable _ => "function"
  | plain v => v.kindName
  | type .. => "type"
  | module .. => "module"
  | object name .. => name

/-- What an export has under a name without having been given it, if that can be called: its class,
or a method. -/
def inherited? (e : Export) (name : String) : Option Callable :=
  if name = Value.classAttribute then some (.maker e.className)
  else if e.methods.contains name then some (.helper name)
  else none

/-- The callable under an attribute. -/
def callableAt? (e : Export) (name : String) : Option Callable :=
  match e.attributes.lookup name with
  | some given => given.callable?
  | none => e.inherited? name

/-- The attribute in which a name is kept. -/
def nameAttribute : String := "__name__"

/-- The value that an export gives itself for a name.  A class has a name of its own. -/
def ownName? : Export → Option Value
  | type .. => none
  | plain v => v.fields.lookup nameAttribute
  | e =>
    match e.attributes.lookup nameAttribute with
    | some (plain v) => some v
    | _ => none

/-- The name of an export that gives itself none. -/
def defaultLabel : Export → String
  | callable c => (c.tag).getD "function"
  | plain v => v.kindName
  | type name _ => name
  | module name _ => name
  | object name .. => name

/-- What is said of a value whose text is not a text. -/
def noTextOf : Value → List Char
  | .finding f => "__str__ returned non-string (type ".toList ++ f.message.kindName.toList ++ [')']
  | _ => tooManyDigitsText

/-- The cause of not finding a callable: the export is told by its name, whose text has to exist. -/
def refusal (e : Export) (member : String) : LoadCause :=
  match e.ownName? with
  | none => .notCallable e.defaultLabel member
  | some v =>
    match v.plain with
    | .ok label => .notCallable (String.ofList label) member
    | .error _ => .raised ⟨"TypeError", [.ofChars (noTextOf v)]⟩

/-- **The callable of an extension**: the export itself, its `default`, or its `member`. -/
def normalize (e : Export) (member : String) : Except LoadCause Callable :=
  match (if e.standsAlone then e.callable? else none) with
  | some c => .ok c
  | none =>
    match e.callableAt? "default" with
    | some c => .ok c
    | none =>
      match e.callableAt? member with
      | some c => .ok c
      | none => .error (e.refusal member)

end Export

end ProseLinter
