import ProseLinter.Rule.Basic

/-!
# Rule/Script — rules given as data

A script is a rule without code: actions to run when it is set up, and actions to run on nodes.  The
values that an action reports are **templates**, filled in with the node at hand, the options and
the context.
-/

namespace ProseLinter

namespace Script

/-- What a template may ask of the context. -/
inductive About where
  | rule
  | source
  | path
  deriving DecidableEq, Repr

/-- **A template** of a value. -/
inductive Template where
  | value (v : Value)
  | list (items : List Template)
  | tuple (items : List Template)
  | table (entries : List (String × Template))
  | object (identity : Nat) (fields : List (String × Template))
  | finding (f : Finding Template)
  /-- The fix that a call of the fixer makes. -/
  | fix (method : Fix.Method) (target text : Template)
  | node
  | raw
  | option (key : String)
  | about (what : About)
  deriving Repr, Inhabited

/-- What a template is filled in with. -/
structure Scene where
  seen : Option TextNode
  options : List (String × Value)
  rule : String
  document : Document

namespace Scene

/-- The node at hand as a value. -/
def nodeValue (s : Scene) : Value := (s.seen.map Value.node).getD .none

/-- A scene with nothing in it. -/
def empty : Scene := ⟨none, [], "", ⟨[], none⟩⟩

/-- The scene of a context. -/
def ofContext (context : Context) (options : List (String × Value)) (seen : Option TextNode) :
    Scene := ⟨seen, options, context.rule, context.document⟩

def about (s : Scene) : About → Value
  | .rule => .text s.rule
  | .source => .ofChars s.document.text
  | .path => (s.document.path.map Value.text).getD .none

end Scene

/-- A table from entries in order: a key that comes again keeps its first place. -/
def tableOf (entries : List (String × Value)) : Value :=
  .table (entries.foldl (fun t e => insertEntry e.1 e.2 t) [])

mutual
/-- **Filling in a template**, inside first; the parts of a finding in the order of their names. -/
def Template.fill (s : Scene) : Template → Except Failure Value
  | .value v => .ok v
  | .list items => do return .list (← fillItems s items)
  | .tuple items => do return .tuple (← fillItems s items)
  | .table entries => do return tableOf (← fillEntries s entries)
  | .object identity fields => do return .object identity (← fillEntries s fields)
  | .finding f => do
    let column ← f.column.fill s
    let fix ← f.fix.fill s
    let index ← f.index.fill s
    let line ← f.line.fill s
    let message ← f.message.fill s
    return .finding ⟨message, index, line, column, fix⟩
  | .fix method target text => do
    let target ← target.fill s
    let text ← text.fill s
    return .edit (← method.call target text)
  | .node => .ok s.nodeValue
  | .raw =>
    match s.seen with
    | some n => .ok (.ofChars n.raw)
    | none => .error (.value .missingField)
  | .option key => .ok ((s.options.lookup key).getD .none)
  | .about what => .ok (s.about what)
def fillItems (s : Scene) : List Template → Except Failure (List Value)
  | [] => .ok []
  | t :: ts => do return (← t.fill s) :: (← fillItems s ts)
def fillEntries (s : Scene) : List (String × Template) → Except Failure (List (String × Value))
  | [] => .ok []
  | (k, t) :: ts => do return (k, ← t.fill s) :: (← fillEntries s ts)
end

/-- When an action applies to a node. -/
structure Condition where
  contains : Option (List Char)
  line : Option Int
  deriving Repr, Inhabited

/-- Whether a text occurs in another one. -/
def occursIn (part : List Char) : List Char → Bool
  | [] => part.isEmpty
  | c :: cs => part.isPrefixOf (c :: cs) || occursIn part cs

/-- Whether an action applies; without a node there is nothing to look at. -/
def Condition.holds (c : Condition) (seen : Option TextNode) : Except Failure Bool :=
  match c.contains, c.line, seen with
  | none, none, _ => .ok true
  | _, _, none => .error (.value .missingField)
  | part, line, some n =>
    .ok ((part.map fun p => occursIn p n.raw).getD true && (line.map (· == n.line)).getD true)

/-- What an action does: raise an exception, or report a payload at a node. -/
inductive Effect where
  | raise (kind : String) (arguments : List Template)
  | report (target payload : Template)
  deriving Repr, Inhabited

structure Action where
  condition : Condition
  effect : Effect
  deriving Repr, Inhabited

/-- The reports of one action. -/
def Action.run (a : Action) (context : Context) (options : List (String × Value))
    (seen : Option TextNode) : Except Failure (List Report) := do
  if ← a.condition.holds seen then
    let scene := Scene.ofContext context options seen
    match a.effect with
    | .raise kind arguments =>
      let arguments ← fillItems scene arguments
      throw (.raised (Raised.ofCall kind arguments))
    | .report target payload =>
      let target ← target.fill scene
      let payload ← payload.fill scene
      return [← context.report target payload]
  else return []

/-- The reports of actions, in order. -/
def runAll (context : Context) (options : List (String × Value)) (seen : Option TextNode) :
    List Action → Except Failure (List Report)
  | [] => .ok []
  | a :: as => do
    let first ← a.run context options seen
    return first ++ (← runAll context options seen as)

end Script

/-- **A script**: what it does when it is set up, and the actions for each kind of node, if it wants
to see any. -/
structure Script where
  onSetup : List Script.Action
  handlers : Option (List (String × List Script.Action))
  deriving Repr, Inhabited

namespace Script

/-- The rule that a script describes. -/
def rule (s : Script) : Rule := fun context options => do
  let reports ← runAll context options none s.onSetup
  return ⟨reports, (s.handlers.getD []).map fun (kind, actions) =>
    (kind, fun n => runAll context options (some n) actions)⟩

end Script

end ProseLinter
