import ProseLinter.Toml.Scalar

/-!
# Toml/Reader — TOML documents

A document is a list of statements: tables, arrays of tables, and pairs of a key and a value.  The
reader keeps the tables so far and **marks** on keys: those that a header has declared, and those
whose value can no longer be extended.
-/

namespace ProseLinter.Toml

/-- The entries of a table. -/
abbrev Entries := List (String × Value)

/-- Whether one key leads to another one or is it. -/
def leadsTo (front key : Key) : Bool := front.isPrefixOf key

/-! ## Nests -/

/-- **Changes the table behind a key**, making the tables on the way.  A list on the way stands for
its last table if `lists` allows it. -/
def nestAt (lists : Bool) (f : Entries → Option Entries) : Key → Entries → Option Entries
  | [], entries => f entries
  | name :: rest, entries =>
    match entries.lookup name with
    | none => (nestAt lists f rest []).map fun t => insertEntry name (.table t) entries
    | some (.table inner) =>
      (nestAt lists f rest inner).map fun t => insertEntry name (.table t) entries
    | some (.list items) =>
      if lists then
        match items.getLast? with
        | some (.table inner) =>
          (nestAt lists f rest inner).map fun t =>
            insertEntry name (.list (items.dropLast ++ [.table t])) entries
        | _ => none
      else none
    | some _ => none

/-- Puts an empty table at the end of the list behind a name. -/
def addTable (name : String) (entries : Entries) : Option Entries :=
  match entries.lookup name with
  | none => some (insertEntry name (.list [.table []]) entries)
  | some (.list items) => some (insertEntry name (.list (items ++ [.table []])) entries)
  | some _ => none

/-! ## Values -/

/-- Whether a value cannot be extended by later statements. -/
def isClosed : Value → Bool
  | .table _ => true
  | .list _ => true
  | _ => false

/-- Adds a pair to an inline table whose keys in `frozen` cannot be extended. -/
def addInline (frozen : List Key) (key : Key) (value : Value) (entries : Entries)
    (rest : List Char) : Except Fault Entries :=
  if frozen.any (leadsTo · key) then fail (.frozen key) rest
  else
    let name := key.getLast?.getD ""
    match nestAt false some key.dropLast entries with
    | none => fail .overwritten rest
    | some _ =>
      match nestAt false
          (fun nest => if (nest.lookup name).isSome then none else some (nest ++ [(name, value)]))
          key.dropLast entries with
      | some entries => .ok entries
      | none => fail (.duplicateKey name) rest

/-- How much of the depth an array takes. -/
def arrayDepth : Nat := 2

/-- How much of the depth an inline table takes. -/
def tableDepth : Nat := 3

mutual
/-- **A value**, with the depth that is left. -/
def value : (fuel depth : Nat) → List Char → Except Fault (Value × List Char)
  | 0, _, cs => fail .value cs
  | fuel + 1, depth, cs =>
    match text? cs with
    | some r => r.map fun (s, rest) => (.ofChars s, rest)
    | none =>
      if "true".toList.isPrefixOf cs then .ok (.bool true, cs.drop 4)
      else if "false".toList.isPrefixOf cs then .ok (.bool false, cs.drop 5)
      else
        match cs with
        | '[' :: rest => do
          let rest ← skipBlanks rest
          match rest with
          | ']' :: rest => return (.list [], rest)
          | rest =>
            if depth < arrayDepth then fail .tooDeep rest
            else
              let (items, rest) ← arrayItems fuel (depth - arrayDepth) rest
              return (.list items, rest)
        | '\x7b' :: rest =>
          match skipSpace rest with
          | '\x7d' :: rest => .ok (.table [], rest)
          | rest =>
            if depth < tableDepth then fail .tooDeep rest
            else do
              let (entries, rest) ← inlineEntries fuel (depth - tableDepth) [] [] rest
              return (.table entries, rest)
        | cs =>
          match moment? cs with
          | some r => r.map fun (m, rest) => (.moment m, rest)
          | none =>
            match number? cs with
            | some r => r
            | none =>
              match special? cs with
              | some r => .ok r
              | none => fail .value cs
/-- The items of an array, from the first one to the closing bracket. -/
def arrayItems : (fuel depth : Nat) → List Char → Except Fault (List Value × List Char)
  | 0, _, cs => fail .openArray cs
  | fuel + 1, depth, cs => do
    let (v, rest) ← value fuel depth cs
    let rest ← skipBlanks rest
    match rest with
    | ']' :: rest => return ([v], rest)
    | ',' :: rest =>
      let rest ← skipBlanks rest
      match rest with
      | ']' :: rest => return ([v], rest)
      | rest =>
        let (vs, rest) ← arrayItems fuel depth rest
        return (v :: vs, rest)
    | rest => fail .openArray rest
/-- The pairs of an inline table, from the first one to the closing brace. -/
def inlineEntries : (fuel depth : Nat) → List Key → Entries → List Char →
    Except Fault (Entries × List Char)
  | 0, _, _, _, cs => fail .openTable cs
  | fuel + 1, depth, frozen, entries, cs => do
    let (k, rest) ← key cs
    match rest with
    | '=' :: rest =>
      let (v, rest) ← value fuel depth (skipSpace rest)
      let entries ← addInline frozen k v entries rest
      match skipSpace rest with
      | '\x7d' :: rest => return (entries, rest)
      | ',' :: rest =>
        let frozen := if isClosed v then k :: frozen else frozen
        inlineEntries fuel depth frozen entries (skipSpace rest)
      | rest => fail .openTable rest
    | rest => fail .missingEquals rest
end

/-! ## Statements -/

/-- What has been read: the tables, the header at hand, and the marks on keys. -/
structure State where
  entries : Entries
  header : Key
  declared : List Key
  frozen : List Key
  /-- Keys that count as declared from the next header on. -/
  pending : List Key

namespace State

def start : State := ⟨[], [], [], [], []⟩

/-- Whether a key or one that leads to it cannot be extended. -/
def isFrozen (s : State) (key : Key) : Bool := s.frozen.any (leadsTo · key)

def isDeclared (s : State) (key : Key) : Bool := s.declared.contains key

/-- The pending keys become declared. -/
def settle (s : State) : State := { s with declared := s.pending ++ s.declared, pending := [] }

/-- The header of a table. -/
def openTable (s : State) (key : Key) : Except Cause State :=
  if s.isDeclared key || s.isFrozen key then .error (.declaredTwice key)
  else
    match nestAt true some key s.entries with
    | some entries =>
      .ok { s with entries := entries, header := key, declared := key :: s.declared }
    | none => .error .overwritten

/-- The header of the next table of an array, whose keys are all new. -/
def openArrayTable (s : State) (key : Key) : Except Cause State :=
  if s.isFrozen key then .error (.frozen key)
  else
    match nestAt true (addTable (key.getLast?.getD "")) key.dropLast s.entries with
    | some entries =>
      .ok { s with
        entries := entries
        header := key
        declared := key :: s.declared.filter fun k => !leadsTo key k
        frozen := s.frozen.filter fun k => !leadsTo key k }
    | none => .error .overwritten

/-- The keys that lead to a dotted key of the header at hand. -/
def ways (s : State) (key : Key) : List Key :=
  (List.range (key.length - 1)).map fun i => s.header ++ key.take (i + 1)

/-- A pair of a key and a value. -/
def addPair (s : State) (key : Key) (value : Value) : Except Cause State :=
  match (s.ways key).find? s.isDeclared with
  | some way => .error (.redefined way)
  | none =>
    let parent := s.header ++ key.dropLast
    let name := key.getLast?.getD ""
    if s.isFrozen parent then .error (.frozen parent)
    else
      match nestAt true
          (fun nest => if (nest.lookup name).isSome then none else some (nest ++ [(name, value)]))
          parent s.entries with
      | some entries =>
        .ok { s with
          entries := entries
          frozen := if isClosed value then (s.header ++ key) :: s.frozen else s.frozen
          pending := s.ways key ++ s.pending }
      | none => .error .overwritten

end State

/-- A change of the state, or its fault at the place where `rest` is left. -/
def orFail (r : Except Cause State) (rest : List Char) : Except Fault State :=
  match r with
  | .ok s => .ok s
  | .error cause => fail cause rest

/-- One statement, whose value is nested to a depth at most; a blank line or a comment changes
nothing. -/
def statement (depth : Nat) (s : State) (cs : List Char) : Except Fault (State × List Char) :=
  match cs with
  | '[' :: '[' :: rest => do
    let (k, rest) ← key (skipSpace rest)
    let s ← orFail (s.settle.openArrayTable k) rest
    match rest with
    | ']' :: ']' :: rest => return (s, rest)
    | rest => fail .arrayTableEnd rest
  | '[' :: rest => do
    let (k, rest) ← key (skipSpace rest)
    let s ← orFail (s.settle.openTable k) rest
    match rest with
    | ']' :: rest => return (s, rest)
    | rest => fail .tableEnd rest
  | c :: _ =>
    if startsKey c then do
      let (k, rest) ← key cs
      match rest with
      | '=' :: rest =>
        let body := skipSpace rest
        let (v, rest) ← value (2 * body.length + 2) depth body
        let s ← orFail (s.addPair k v) rest
        return (s, rest)
      | rest => fail .missingEquals rest
    else if c = '#' then .ok (s, cs)
    else fail .statement cs
  | [] => .ok (s, [])

/-- Statements to the end of the text. -/
def statements (depth : Nat) : (fuel : Nat) → State → List Char → Except Fault State
  | 0, s, _ => .ok s
  | fuel + 1, s, cs =>
    match skipSpace cs with
    | [] => .ok s
    | '\n' :: rest => statements depth fuel s rest
    | cs => do
      let (s, rest) ← statement depth s cs
      match ← skipComment (skipSpace rest) with
      | [] => return s
      | '\n' :: rest => statements depth fuel s rest
      | rest => fail .statementEnd rest

/-- **Reading a document**, whose line breaks are line feeds.  Arrays and inline tables may stand
within each other to the given depth. -/
def read (depth : Nat) (source : List Char) : Except Fault Entries :=
  (statements depth (source.length + 1) .start source).map (·.entries)

end ProseLinter.Toml
