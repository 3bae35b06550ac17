import CommandPalette.Log.Entry
import CommandPalette.Value.Basic

/-!
# The settings

* `App`, `Input`, `Vim`: the three sections.
* `Config`: all settings, with the entries that belong to no section.
* `Config.toValue`: the settings as a table.
-/

namespace CommandPalette.Settings

/-- The settings of the application as a whole. -/
structure App where
  /-- The name that is displayed. -/
  name : String := "OmniCLI"
  /-- The version that is displayed. -/
  version : String := "0.1.0"
  /-- Whether defects are looked for. -/
  debug : Bool := false
  /-- Lines below this level are not written. -/
  logLevel : Log.Level := .warning
  /-- Whether all lines are written. -/
  verboseLogging : Bool := false
  /-- Where the lines are written to, besides the console. -/
  logFile : Option String := none
  /-- The size at which a new file is begun. -/
  maxLogSizeMb : Int := 10
  /-- How many old files are kept. -/
  backupCount : Int := 5
  deriving DecidableEq, Repr, Inhabited

/-- The log file that the settings name; an empty name is none. -/
def App.logName? (a : App) : Option String := a.logFile.filter (!·.isEmpty)

/-- How an input line is read. -/
structure Input where
  /-- What every command line starts with. -/
  lead : String := ""
  /-- The name of the catch-all command. -/
  defaultCommand : String := "*"
  /-- Whether all commands are listed when nothing matches. -/
  listAllCommands : Bool := true
  /-- The description of the placeholder that is shown when nothing matches. -/
  emptyHint : String := "Enter a command"
  deriving DecidableEq, Repr, Inhabited

/-- How the menu is moved about in. -/
structure Vim where
  /-- Whether motions are read. -/
  enabled : Bool := true
  /-- What stands before the entry pointed at. -/
  highlightHint : String := "[↓j↑k] ↳"
  /-- The template of what stands before the other entries. -/
  keyFormat : String := "[\x7bkey\x7d]"
  deriving DecidableEq, Repr, Inhabited

/-- The names of the sections. -/
def sectionNames : List String := ["app", "input", "vim"]

/-- Whether a key is the name of a section. -/
def isSection (key : Value) : Bool := sectionNames.any fun name => key.same (.text name)

/-- All settings. -/
structure Config where
  app : App := {}
  input : Input := {}
  vim : Vim := {}
  /-- Entries that belong to no section; they are kept as they are. -/
  extras : List (Value × Value) := []
  /-- Notes that were put on the settings; they are no entries. -/
  notes : List (Value × Value) := []
  deriving Inhabited, Repr

/-! ## Settings as tables -/

/-- A table with texts as keys. -/
def table (entries : List (String × Value)) : List (Value × Value) :=
  entries.map fun (name, value) => (.text name, value)

/-- Whether all keys of a table are texts. -/
def hasTextKeys (entries : List (Value × Value)) : Bool :=
  entries.all fun (key, _) => key matches .text _

/-- The fields of a section. -/
def App.fields (a : App) : List (String × Value) :=
  [("name", .text a.name), ("version", .text a.version), ("debug", .bool a.debug),
    ("log_level", .text a.logLevel.name), ("verbose_logging", .bool a.verboseLogging),
    ("log_file", (a.logFile.map Value.text).getD .null), ("max_log_size_mb", .int a.maxLogSizeMb),
    ("backup_count", .int a.backupCount)]

/-- The fields of a section. -/
def Input.fields (i : Input) : List (String × Value) :=
  [("prefix", .text i.lead), ("default_command", .text i.defaultCommand),
    ("list_all_commands", .bool i.listAllCommands), ("empty_hint", .text i.emptyHint)]

/-- The fields of a section. -/
def Vim.fields (v : Vim) : List (String × Value) :=
  [("enabled", .bool v.enabled), ("highlight_hint", .text v.highlightHint),
    ("key_format", .text v.keyFormat)]

/-- The settings as a table. -/
def Config.toValue (c : Config) : Value :=
  .table <| table [("app", .table (table c.app.fields)), ("input", .table (table c.input.fields)),
    ("vim", .table (table c.vim.fields))] ++ c.extras

end CommandPalette.Settings
