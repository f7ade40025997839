import ProseLinter.Config.Validate
import ProseLinter.FileTree.Walk
import ProseLinter.Text.Utf8
import ProseLinter.Toml.Reader

/-!
# Config/Load — settings from a file

The configuration file is the first one of its name in a directory or above it.  A file that is no
TOML, or whose entries cannot be used, is an error of the configuration.  How deeply the values of
the file may be nested is up to the one who loads it.
-/

namespace ProseLinter.Config

/-- The name of the configuration file. -/
def fileName : String := "pyproject.toml"

/-- A directory and those above it, the nearest first. -/
def upward : List String → List (List String)
  | [] => [[]]
  | n :: ns => (upward ns).map (n :: ·) ++ [[]]

variable {α : Type}

/-- The first of several directories that holds a configuration file. -/
def findIn (tree : Entry α) : List (List String) → Except FileFault (Option Path)
  | [] => .ok none
  | d :: ds => do
    let candidate : Path := ⟨.absolute, d ++ [fileName]⟩
    if ← tree.isFileAt? [] candidate then return some candidate else findIn tree ds

/-- **The configuration file** for a directory. -/
def find (tree : Entry α) (cwd : Location) (start : Path) : Except Failure (Option Path) := do
  let resolved ← tree.resolve cwd start
  match findIn tree (upward resolved.names) with
  | .ok found => return found
  | .error fault => throw (.file fault)

/-- The settings that the entries of a configuration file hold. -/
def ofDocument (path : String) (entries : List (String × Value)) :
    Except ConfigFailure Config :=
  match (entries.lookup "tool").getD (.table []) with
  | .table tool => ofValue (some path) ((tool.lookup "textguard").getD (.table []))
  | _ => .error (.failed (.value .missingField))

/-- The settings in the bytes of a configuration file. -/
def ofBytes (depth : Nat) (path : String) (bytes : List UInt8) : Except ConfigFailure Config :=
  match Text.decode? bytes with
  | none => .error (.failed .undecodable)
  | some cs =>
    let source := Text.joinReturns cs
    match Toml.read depth source with
    | .ok entries => ofDocument path entries
    | .error ⟨.tooManyDigits, _⟩ => .error (.failed (.value .tooManyDigits))
    | .error ⟨.tooDeep, _⟩ => .error (.failed (.value .tooDeep))
    | .error fault => .error (.rejected ⟨.syntaxFault (fault.text source), some path⟩)

/-- **Settings from the file at a path**, whose content is given as bytes. -/
def ofFile (depth : Nat) (bytes : α → List UInt8) (tree : Entry α) (cwd : Location) (path : Path) :
    Except ConfigFailure Config :=
  match tree.read cwd path with
  | .ok content => ofBytes depth path.text (bytes content)
  | .error .nullCharacter => .error (.failed (.value .badValue))
  | .error fault => .error (.rejected ⟨.unreadable fault, some path.text⟩)

/-- **The settings**: from the given file, else from the one that is found, else the defaults. -/
def load (depth : Nat) (bytes : α → List UInt8) (tree : Entry α) (cwd : Location)
    (path : Option Path) : Except ConfigFailure Config :=
  match path with
  | some p => ofFile depth bytes tree cwd p
  | none =>
    match find tree cwd ⟨.relative, []⟩ with
    | .ok (some p) => ofFile depth bytes tree cwd p
    | .ok none => .ok .default
    | .error e => .error (.failed e)

end ProseLinter.Config
