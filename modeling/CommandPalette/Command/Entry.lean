import CommandPalette.Command.Declaration

/-!
# Entries

An entry is a command ready to be run: its gaps are filled and the depth of its tree is known.  The
entries of one command under its different paths differ in their name alone.

* `Entry`: the entries.
* `Declaration.normalize`: the entry of a declaration, under its canonical name.
-/

namespace CommandPalette.Command

variable {α β : Type}

/-- A command under one of its paths. -/
structure Entry (α β : Type) where
  /-- The path, names joined by spaces. -/
  name : String
  /-- Shown next to the command. -/
  description : Value
  /-- What running the command does; nothing, if the declaration had no action. -/
  action : Option α
  /-- The declared children. -/
  subcommands : List (Declaration α β)
  /-- How many commands the tree below and including this one has. -/
  depth : Nat
  /-- Alternate names. -/
  aliases : List String
  /-- What suggests the arguments. -/
  provider : Option β
  deriving Inhabited

namespace Entry

/-- The names along the path. -/
def path (e : Entry α β) : List String := splitPath e.name

/-- How many tokens of the input the path takes. -/
def tokenCount (e : Entry α β) : Nat := e.path.length

/-- The same command under another path. -/
def rename (e : Entry α β) (name : String) : Entry α β := { e with name }

end Entry

namespace Declaration

/-- The names of a command that has been checked. -/
def texts (vs : List Value) : List String :=
  vs.filterMap fun
    | .text s => some s
    | _ => none

/-- The entry of a declaration, under its canonical name. -/
def normalize (d : Declaration α β) : Except Fault (Entry α β) := do
  d.validate
  let depth ← d.depth
  match d with
  | .other v => .error (.noField v.typeName "name")
  | .command name aliases description action subcommands provider =>
    return {
      name := name.plain
      description := if description.truthy then description else .text ""
      action := action.get?
      subcommands
      depth
      aliases := texts aliases
      provider := provider.get? }

end Declaration

end CommandPalette.Command
