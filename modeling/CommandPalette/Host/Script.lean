import CommandPalette.Engine

/-!
# Scripted callbacks

A host whose callbacks follow a script makes every run of the engine a piece of data: what a callback
will do is written down, and what the engine made it do is a list of events.

* `Action`, `Reply`: what an action does, and what a provider replies.
* `Turn`, `Provider`: a provider replies to one call after the other, and may take its time before it
  does.
* `Scripted`: a script with the place of its command in the declared tree.
* `Event`: what happened to the callbacks.
-/

namespace CommandPalette.Host

/-- What an action does. -/
inductive Action where
  | returns (v : Value)
  | handsBack (fault : Fault)
  | raises (fault : Fault)
  deriving Inhabited

/-- What running an action comes to. -/
def Action.run : Action → Except Fault Returned
  | returns v => .ok (.value v)
  | handsBack fault => .ok (.fault fault)
  | raises fault => .error fault

/-- What a provider replies. -/
inductive Reply where
  | items (list : List Item)
  /-- This many numbered suggestions. -/
  | numbered (count : Nat)
  /-- One suggestion for each argument. -/
  | echo
  /-- One suggestion for all arguments together. -/
  | joined
  | value (v : Value)
  | raises (fault : Fault)
  deriving Inhabited

/-- What a call with arguments is answered. -/
def Reply.run (args : List String) : Reply → Except Fault Provided
  | items list => .ok (.items list)
  | numbered count => .ok <| .items <| (List.range count).map fun i =>
    .suggestion { content := s!"item-{i}", description := s!"Item {i}" }
  | echo => .ok <| .items <| args.zipIdx.map fun (arg, i) =>
    .suggestion { content := arg, description := s!"arg {i}" }
  | joined => .ok <| .items
    [.suggestion { content := " ".intercalate args, description := "search" }]
  | value v => .ok (.value v)
  | raises fault => .error fault

/-- A reply, and the gate at which it waits. -/
structure Turn where
  reply : Reply
  gate : Option String := none
  deriving Inhabited

/-- A suggestion provider: a turn for each call, where the last one is for all calls that are left. -/
structure Provider where
  turns : List Turn
  deriving Inhabited

/-- The turn of the call with the given number, counted from zero. -/
def Provider.turn (p : Provider) (call : Nat) : Turn :=
  (p.turns[min call (p.turns.length - 1)]?).getD
    { reply := .raises (.foreign "IndexError" "list index out of range") }

/-- A script, and the place of its command in the declared tree. -/
structure Scripted (σ : Type) where
  place : String
  script : σ
  deriving Inhabited

/-- A declaration with scripted callbacks. -/
abbrev Declaration := Command.Declaration (Scripted Action) (Scripted Provider)

/-- What happened to a callback. -/
inductive Event where
  | ran (place : String) (args : List String)
  | asked (place : String) (args : List String)
  | told (fault : Fault)

/-- How often each provider was asked. -/
abbrev Calls := Table Nat

/-- Asks a provider: the gate at which it waits, what it will reply, and the count afterwards. -/
def ask (calls : Calls) (provider : Scripted Provider) (args : List String) :
    Option String × Except Fault Provided × Calls :=
  let call := (calls.get? provider.place).getD 0
  let turn := provider.script.turn call
  (turn.gate, turn.reply.run args, calls.insert provider.place (call + 1))

end CommandPalette.Host
