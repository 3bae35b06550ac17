import CommandPalette.Check

/-!
# Declarations of commands

A host declares a tree of commands.  What it hands in is not trusted: a name or an alias may be a
value of any type, a callback may be no callback, and a node may be no command at all.  Callbacks are
opaque: nothing here looks into them, so the types of actions and providers are parameters.

Left out are values that are no commands but have the parts of one, and callbacks that can be called but count
as nothing where a truth value is asked for.

* `Declaration`: a node of the tree as it was handed in.
* `Declaration.make`: a node from its parts, where aliases may come as one text.
* `Declaration.depth`: how many commands a tree has, which bounds the length of its paths.
* `Declaration.validate`: the check of a node before it is registered.
-/

namespace CommandPalette.Command

variable {α β : Type}

/-- A place for a callback. -/
inductive Callback (α : Type) where
  /-- Nothing was declared. -/
  | absent
  /-- A callback. -/
  | callable (f : α)
  /-- A value that cannot be called. -/
  | other (v : Value)
  deriving Inhabited

namespace Callback

/-- The callback that was declared. -/
def get? : Callback α → Option α
  | callable f => some f
  | _ => none

/-- Whether a value stands here that cannot be called. -/
def isOther : Callback α → Bool
  | other v => !Check.isNull v
  | _ => false

end Callback

/-- A node of a command tree as it was handed in: with actions in `α` and suggestion providers in
`β`. -/
inductive Declaration (α β : Type) where
  /-- A command. -/
  | command (name : Value) (aliases : List Value) (description : Value) (action : Callback α)
      (subcommands : List (Declaration α β)) (provider : Callback β)
  /-- A value where a command should be. -/
  | other (v : Value)
  deriving Inhabited

namespace Declaration

/-- The aliases that a value stands for: a text is one alias, an empty value is none, and anything
else is gone through. -/
def aliasesOf (v : Value) : Except Fault (List Value) :=
  if !v.truthy then .ok []
  else match v with
    | .text _ => .ok [v]
    | _ => match v.items? with
      | some items => .ok items
      | none => .error (.notIterable v.typeName)

/-- A command from its parts. -/
def make (name aliases description : Value) (action : Callback α)
    (subcommands : List (Declaration α β)) (provider : Callback β) :
    Except Fault (Declaration α β) := do
  return .command name (← aliasesOf aliases) description action subcommands provider

/-- The canonical name. -/
def name? : Declaration α β → Except Fault Value
  | command name .. => .ok name
  | other v => .error (.noField v.typeName "name")

/-- The canonical name and every alias. -/
def names? : Declaration α β → Except Fault (List Value)
  | command name aliases .. => .ok (name :: aliases)
  | other v => .error (.noField v.typeName "names")

/-- The children. -/
def subcommands? : Declaration α β → Except Fault (List (Declaration α β))
  | command _ _ _ _ subcommands _ => .ok subcommands
  | other v => .error (.noField v.typeName "subcommands")

/-! ## Depth -/

mutual

/-- How many nodes a tree has. -/
def nodeCount : Declaration α β → Nat
  | command _ _ _ _ subcommands _ => 1 + nodeCounts subcommands
  | other _ => 1

/-- How many nodes a list of trees has. -/
def nodeCounts : List (Declaration α β) → Nat
  | [] => 0
  | d :: rest => nodeCount d + nodeCounts rest

end

theorem nodeCounts_append (ds es : List (Declaration α β)) :
    nodeCounts (ds ++ es) = nodeCounts ds + nodeCounts es := by
  induction ds with
  | nil => simp [nodeCounts]
  | cons d rest ih =>
    rw [List.cons_append, nodeCounts, nodeCounts, ih]
    omega

theorem nodeCounts_reverse (ds : List (Declaration α β)) :
    nodeCounts ds.reverse = nodeCounts ds := by
  induction ds with
  | nil => rfl
  | cons d rest ih =>
    rw [List.reverse_cons, nodeCounts_append, ih]
    simp [nodeCounts]
    omega

/-- A stack of nodes with the children of a node on top, the last child uppermost. -/
def push (children stack : List (Declaration α β)) : List (Declaration α β) :=
  children.reverse ++ stack

theorem nodeCounts_push (children stack : List (Declaration α β)) :
    nodeCounts (push children stack) = nodeCounts children + nodeCounts stack := by
  rw [push, nodeCounts_append, nodeCounts_reverse]

/-- Counts the nodes that are still to be visited; the next one is on top of the stack. -/
def depthFrom (depth : Nat) (stack : List (Declaration α β)) : Except Fault Nat :=
  match stack with
  | [] => .ok depth
  | command _ _ _ _ subcommands _ :: rest => depthFrom (depth + 1) (push subcommands rest)
  | other v :: _ => .error (.noField v.typeName "subcommands")
termination_by nodeCounts stack
decreasing_by
  rw [nodeCounts_push, nodeCounts, nodeCount]
  omega

/-- The depth of a tree: one for its root and one for every node below. -/
def depth (d : Declaration α β) : Except Fault Nat := do
  depthFrom 1 (push (← d.subcommands?) [])

/-! ## Validation -/

/-- The check of a name or an alias. -/
def nameCheck (field : String) : Check :=
  { field, type := some "str", validator := some checkName }

/-- Checks a node, but not the nodes below it. -/
def validate : Declaration α β → Except Fault Unit
  | other v => do
    let _ ← Check.run { field := "command", type := some "Command" } v
  | command name aliases _ action _ provider => do
    let _ ← (nameCheck "command.name").run name
    for word in aliases do
      let _ ← (nameCheck s!"alias of {name.quoted}").run word
    if action.isOther then
      .error (.invalid s!"action of {name.quoted} must be callable")
    if provider.isOther then
      .error (.invalid s!"suggestion_provider of {name.quoted} must be callable")

end Declaration

end CommandPalette.Command
