import CommandPalette.Command.Registry

/-!
# Resolving an input line

The first tokens of a line name a command and the rest are its arguments.  The longest registered
path wins.  A line whose first token names no root goes to the catch-all command with all its tokens.

* `Resolution`: what a line means.
* `Registry.resolveTokens`: the meaning of a list of tokens.
* `Registry.resolve`: the meaning of a line.
-/

namespace CommandPalette.Command

variable {α β : Type}

/-- What a line means. -/
structure Resolution (α β : Type) where
  /-- The line. -/
  text : String
  /-- The command, if there is one. -/
  command : Option (Entry α β) := none
  /-- The arguments; all tokens of the line, if there is no command. -/
  args : List String := []
  /-- How many tokens the path of the command took. -/
  consumed : Nat := 0
  deriving Inhabited

/-- Whether a line has a command. -/
def Resolution.matched (r : Resolution α β) : Bool := r.command.isSome

namespace Registry

/-- The entry of the longest registered path among those of a root followed by one, two, … up to
`bound` arguments. -/
def deepest (r : Registry α β) (root : String) (rootEntry : Entry α β) (args : List String) :
    Nat → Entry α β
  | 0 => rootEntry
  | bound + 1 =>
    (r.get? (joinPath (root :: args.take (bound + 1)))).getD (r.deepest root rootEntry args bound)

/-- The meaning of tokens without a root among the commands. -/
def unresolved (r : Registry α β) (text : String) (tokens : List String) : Resolution α β :=
  { text, command := r.default?, args := tokens }

/-- The meaning of a list of tokens, given the line they come from. -/
def resolveTokens (r : Registry α β) (text : String) (tokens : List String) : Resolution α β :=
  match tokens with
  | [] => r.unresolved text tokens
  | root :: args => match r.get? root with
    | none => r.unresolved text tokens
    | some rootEntry =>
      if rootEntry.depth = 1 then { text, command := some rootEntry, args, consumed := 1 }
      else
        let entry := r.deepest root rootEntry args (min (rootEntry.depth - 1) args.length)
        let consumed := entry.tokenCount
        { text, command := some entry, args := args.drop (consumed - 1), consumed }

/-- The meaning of a line. -/
def resolve (r : Registry α β) (text : String) : Resolution α β :=
  r.resolveTokens text (Text.tokens text)

/-- The lines that resolving writes to the log: one for a command that has others below it. -/
def resolveRemarks (r : Registry α β) (text : String) : List Log.Entry :=
  let root := (Text.tokens text).head?.bind r.get?
  let resolution := r.resolve text
  match root, resolution.command with
  | some root, some entry =>
    if root.depth = 1 then []
    else [.debug "omnicli.resolver"
      s!"Resolved '{text}' to '{entry.name}' ({resolution.consumed} token(s))"]
  | _, _ => []

end Registry

end CommandPalette.Command
