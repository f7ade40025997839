import ProseLinter.Text.Quoted
import ProseLinter.Text.Similarity

/-!
# CommandLine/Options — options among arguments

An option starts with two dashes and may take a value, from the next argument or after an equals
sign.  Two dashes alone end the options.  No option has a short form.
-/

namespace ProseLinter.CommandLine

/-- An option of a command. -/
structure OptionSpec where
  name : String
  takesValue : Bool
  deriving DecidableEq, Repr

/-- What is wrong with arguments. -/
inductive OptionFault where
  | unknown (name : String) (similar : List String)
  | needsValue (name : String)
  | takesNone (name : String)
  deriving DecidableEq, Repr

/-- The options that were given, with their values, and the other arguments. -/
structure Arguments where
  given : List (String × String)
  rest : List String
  deriving DecidableEq, Repr

namespace Arguments

/-- Arguments with one more option in front. -/
def withOption (name value : String) (a : Arguments) : Arguments :=
  { a with given := (name, value) :: a.given }

/-- Arguments with one more plain argument in front. -/
def withRest (arg : String) (a : Arguments) : Arguments := { a with rest := arg :: a.rest }

def has (a : Arguments) (name : String) : Bool := a.given.any (·.1 == name)

/-- The value that was given last. -/
def last? (a : Arguments) (name : String) : Option String := (a.given.reverse).lookup name

/-- All values that were given. -/
def all (a : Arguments) (name : String) : List String :=
  (a.given.filter (·.1 == name)).map (·.2)

end Arguments

/-- An argument cut at its first equals sign. -/
def splitEquals (arg : String) : String × Option String :=
  let cs := arg.toList
  match cs.dropWhile (· ≠ '=') with
  | [] => (arg, none)
  | _ :: value => (String.ofList (cs.takeWhile (· ≠ '=')), some (String.ofList value))

/-- Whether an argument is written like an option. -/
def looksLikeOption (arg : String) : Bool :=
  arg.toList.head? == some '-' && 1 < arg.toList.length

/-- An option that no command knows: by its first letter, or, after two dashes, by its name. -/
def unknownOption (specs : List OptionSpec) (arg name : String) : OptionFault :=
  if "--".toList.isPrefixOf arg.toList then
    .unknown name (Text.candidates name (specs.map (·.name)))
  else .unknown (String.ofList (arg.toList.take 2)) []

/-- **Reading arguments.**  Unless options and other arguments may be mixed, the first argument that
is no option ends the options. -/
def parse (specs : List OptionSpec) (mixed : Bool) : List String → Except OptionFault Arguments
  | [] => .ok ⟨[], []⟩
  | arg :: rest =>
    if arg = "--" then .ok ⟨[], rest⟩
    else if looksLikeOption arg then
      let (name, value) := splitEquals arg
      match specs.find? (·.name == name) with
      | none => .error (unknownOption specs arg name)
      | some spec =>
        match spec.takesValue, value with
        | true, some v => (parse specs mixed rest).map (·.withOption name v)
        | true, none =>
          match rest with
          | v :: rest => (parse specs mixed rest).map (·.withOption name v)
          | [] => .error (.needsValue name)
        | false, some _ => .error (.takesNone name)
        | false, none => (parse specs mixed rest).map (·.withOption name "")
    else if mixed then (parse specs mixed rest).map (·.withRest arg)
    else .ok ⟨[], arg :: rest⟩

namespace OptionFault

/-- The names of several options, in order. -/
def sorted (names : List String) : List String := names.mergeSort fun a b => decide (¬ b < a)

def text : OptionFault → List Char
  | unknown name similar =>
    "No such option: ".toList ++ name.toList ++
      match similar with
      | [] => []
      | [one] => " Did you mean ".toList ++ one.toList ++ ['?']
      | several =>
        " (Possible options: ".toList
          ++ Text.join ", ".toList ((sorted several).map String.toList) ++ [')']
  | needsValue name => "Option ".toList ++ Text.quote name.toList ++ " requires an argument.".toList
  | takesNone name => "Option ".toList ++ Text.quote name.toList ++ " does not take a value.".toList

/-- Whether the usage of the command is shown with the fault. -/
def showsUsage : OptionFault → Bool
  | unknown .. => true
  | _ => false

end OptionFault

end ProseLinter.CommandLine
