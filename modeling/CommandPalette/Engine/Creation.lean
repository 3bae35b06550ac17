import CommandPalette.Engine
import CommandPalette.Log.Output
import CommandPalette.Settings.Reading

/-!
# Creating an engine

A host hands in its commands and its settings, some of which it may override on the spot.  Settings
that ask for a log get one before the engine is built, so the lines of the building are in it.

* `Settings.Config.override`: settings with options in place of fields about input lines.
* `Engine.Order`, `Engine.Order.fulfil`: what a host hands in, and the engine with its log.
-/

namespace CommandPalette

/-! ## Options -/

namespace Settings

/-- The names of the fields about input lines. -/
def Input.names : List String := ({} : Input).fields.map (·.1)

/-- Settings with options in place of fields about input lines.  Options that are unknown, or have
values that their fields do not admit, are refused. -/
def Config.override (c : Config) (options : List (String × Value)) : Except Fault Config :=
  let unknown := (options.map (·.1)).filter fun name => !Input.names.contains name
  if !unknown.isEmpty then
    let sorted := unknown.mergeSort fun a b => !(b < a)
    .error (.invalid ("unknown option(s): " ++ ", ".intercalate sorted))
  else if options.isEmpty then .ok c
  else match c.input.override (table options) with
    | .ok input => .ok { c with input }
    | .problems list => .error (.invalid ("invalid option: " ++ Problem.details "InputConfig" list))
    | .fault f => .error f

/-- Whether settings ask for a log. -/
def App.wantsLog (a : App) : Bool := a.debug || a.logName?.isSome

end Settings

/-! ## Engines -/

namespace Engine

variable {α β : Type}

/-- What a host hands in. -/
structure Order (α β : Type) where
  /-- The commands, which are required. -/
  commands : Option (List (Command.Declaration α β))
  config : Settings.Config := {}
  /-- Options in place of fields about input lines. -/
  options : List (String × Value) := []
  onError : Option (Fault → Option Fault) := none

/-- What else an order holds by name; no option may be called so. -/
def Order.partNames : List String := ["commands", "config", "on_error"]

/-- What an order comes to. -/
structure Delivery (α β : Type) where
  result : Except Fault (Engine α β)
  /-- The lines of the building, whether or not there is a log for them. -/
  lines : List Log.Entry := []
  /-- The log. -/
  output : Log.Output
  /-- What was written to it. -/
  written : Log.Written

/-- Builds an engine, and sets the log up before if the settings ask for one and there is none. -/
def Order.fulfil (order : Order α β) (place : Log.Output.Place) (output : Log.Output)
    (files : FileSystem) : Delivery α β :=
  let refused (fault : Fault) : Delivery α β := { result := .error fault, output, written := { files } }
  match (order.options.map (·.1)).find? partNames.contains, order.commands with
  | some name, _ =>
    refused (.foreign "TypeError" s!"create_cli() got multiple values for argument '{name}'")
  | none, none => refused (.invalid "commands is required")
  | none, some commands => match order.config.override order.options with
    | .error fault => refused fault
    | .ok config =>
      let ready : Log.Output.SetUp :=
        if config.app.wantsLog then output.setUp place files config.app config.app.debug false
        else { output, written := { files } }
      match ready.fault? with
      | some fault => { result := .error fault, output := ready.output, written := ready.written }
      | none =>
        let (result, lines) := make config order.onError commands
        let later := ready.output.writeEntries ready.written.files lines
        { result, lines
          output := ready.output
          written := { later with shown := ready.written.shown ++ later.shown } }

end Engine

end CommandPalette
