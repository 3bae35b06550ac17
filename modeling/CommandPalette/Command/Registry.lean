import CommandPalette.Command.Entry
import CommandPalette.Log.Timer
import CommandPalette.Table

/-!
# The registry

The registry flattens command trees into a table of paths: every command is there once for each way
to spell its path, where at every level any name of the command there will do.  So the path of any
node is found by one look-up.

Registering a tree is a walk that writes entries one by one, and ends at the first node that is
refused; what was written before stays.  `writes` is this walk as data.

* `Registry`: the table, and the names of the roots.
* `writes`: what registering a list of trees writes.
* `Registry.register`: registration.
-/

namespace CommandPalette.Command

variable {α β : Type}

/-- The channel of the lines about the registry. -/
def registryChannel : String := "omnicli.registry"

/-- A path-keyed table of commands. -/
structure Registry (α β : Type) where
  /-- The path of the catch-all command. -/
  defaultName : String := "*"
  /-- The commands by their paths. -/
  table : Table (Entry α β) := {}
  /-- The names of the roots that were handed in, the oldest first. -/
  roots : List Value := []
  deriving Inhabited

/-! ## What a walk writes -/

/-- The writes of a walk, and the fault that ended it. -/
structure Writes (α β : Type) where
  /-- The entries by their paths, in the order in which they are written. -/
  entries : List (String × Entry α β) := []
  /-- The refusal that ended the walk. -/
  fault : Option Fault := none

namespace Writes

/-- A walk after another one; it does not take place if that one was ended. -/
def andThen (first second : Writes α β) : Writes α β :=
  match first.fault with
  | some _ => first
  | none => ⟨first.entries ++ second.entries, second.fault⟩

/-- One walk after the other. -/
def sequence : List (Writes α β) → Writes α β
  | [] => {}
  | first :: rest => first.andThen (sequence rest)

end Writes

mutual

/-- The writes of a tree below a path: the node under each of its names, each followed by the nodes
below it. -/
def writesOf (lead : String) : Declaration α β → Writes α β
  | .other v => match (Declaration.other v : Declaration α β).normalize with
    | .error fault => ⟨[], some fault⟩
    | .ok _ => {}
  | .command name aliases description action subcommands provider =>
    match (Declaration.command name aliases description action subcommands provider).normalize with
    | .error fault => ⟨[], some fault⟩
    | .ok entry =>
      .sequence <| (Declaration.texts (name :: aliases)).map fun name =>
        let path := extendPath lead name
        .andThen ⟨[(path, entry.rename path)], none⟩ (writes path subcommands)

/-- The writes of a list of trees below a path. -/
def writes (lead : String) : List (Declaration α β) → Writes α β
  | [] => {}
  | d :: rest => (writesOf lead d).andThen (writes lead rest)

end

/-! ## Registration -/

namespace Registry

/-- Whether a root of this name has been handed in. -/
def hasRoot (roots : List Value) (name : Value) : Bool := roots.any (name.same ·)

/-- Notes the names of new roots; a value that is no command ends it. -/
def noteRoots (roots : List Value) : List (Declaration α β) → List Value × Option Fault
  | [] => (roots, none)
  | d :: rest => match d.name? with
    | .error fault => (roots, some fault)
    | .ok name => noteRoots (if hasRoot roots name then roots else roots ++ [name]) rest

/-- The lines about writes to paths that are taken already. -/
def overwriteLines (table : Table (Entry α β)) : List (String × Entry α β) → List Log.Entry
  | [] => []
  | (path, entry) :: rest =>
    let later := overwriteLines (table.insert path entry) rest
    if table.contains path then
      .debug registryChannel s!"Overwriting registered command '{path}'" :: later
    else later

/-- Registers a list of trees.  The result is the registry afterwards, the refusal that ended the
registration, and the lines written to the log. -/
def register (r : Registry α β) (commands : List (Declaration α β)) :
    Registry α β × Option Fault × List Log.Entry :=
  let (roots, fault) := noteRoots r.roots commands
  let walk : Writes α β := match fault with
    | some fault => ⟨[], some fault⟩
    | none => writes "" commands
  let result := { r with roots, table := r.table.insertAll walk.entries }
  let timer : Log.Timer :=
    ⟨Log.Timer.performanceChannel, s!"registering {commands.length} command tree(s)", .debug⟩
  let ended := timer.ended (.ofInt 0) walk.fault.isNone
  let summary :=
    if walk.fault.isNone then
      [Log.Entry.debug registryChannel s!"Registry holds {result.table.size} path(s)"]
    else []
  (result, walk.fault,
    timer.started :: overwriteLines r.table walk.entries ++ ended :: summary)

/-- The entry of a path. -/
def get? (r : Registry α β) (path : String) : Option (Entry α β) := r.table.get? path

/-- The entry of a path that has to be there. -/
def get (r : Registry α β) (path : String) : Except Fault (Entry α β) :=
  match r.get? path with
  | some entry => .ok entry
  | none => .error (.missingKey path)

/-- The catch-all command, if one was registered. -/
def default? (r : Registry α β) : Option (Entry α β) := r.get? r.defaultName

/-- Whether an entry is the catch-all command. -/
def isDefault (r : Registry α β) (entry : Entry α β) : Bool := entry.name == r.defaultName

/-- The names of the roots without the catch-all. -/
def topLevelNames (r : Registry α β) : List Value :=
  r.roots.filter fun name => !name.same (.text r.defaultName)

/-- All entries without the catch-all, in order of insertion. -/
def entries (r : Registry α β) : List (Entry α β) :=
  (r.table.entries.filter fun (path, _) => path != r.defaultName).map (·.2)

end Registry

end CommandPalette.Command
