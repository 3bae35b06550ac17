import CommandPalette.Settings.Config
import CommandPalette.Settings.Rule

/-!
# Reading settings from tables

* `App.ofTable`, `Input.ofTable`, `Vim.ofTable`: the sections.
* `Config.ofTable`: all settings.
* `declared`: the fields, each by itself.
* `Config.assign`: a change of one entry of the settings, which is checked like any other.
* `setField`: a change of one field of a section, which is not checked.
* `Input.override`: a section with some of its fields replaced.
-/

namespace CommandPalette.Settings

/-- The application section; `home` is the home directory. -/
def App.ofTable (home : String) (entries : List (Value × Value)) : Checked App :=
  let d : App := {}
  App.mk <$> field entries "name" .someText d.name
    <*> field entries "version" .text d.version
    <*> field entries "debug" .flag d.debug
    <*> field entries "log_level" .level d.logLevel
    <*> field entries "verbose_logging" .flag d.verboseLogging
    <*> field entries "log_file" (.filePath home) d.logFile
    <*> field entries "max_log_size_mb" (.count 1 1000) d.maxLogSizeMb
    <*> field entries "backup_count" (.count 1 100) d.backupCount

/-- The section about input lines. -/
def Input.ofTable (entries : List (Value × Value)) : Checked Input :=
  let d : Input := {}
  Input.mk <$> field entries "prefix" .text d.lead
    <*> field entries "default_command" .oneToken d.defaultCommand
    <*> field entries "list_all_commands" .flag d.listAllCommands
    <*> field entries "empty_hint" .text d.emptyHint

/-- The section about motions. -/
def Vim.ofTable (entries : List (Value × Value)) : Checked Vim :=
  let d : Vim := {}
  Vim.mk <$> field entries "enabled" .flag d.enabled
    <*> field entries "highlight_hint" .text d.highlightHint
    <*> field entries "key_format" .keyTemplate d.keyFormat

/-- A section is a table. -/
def sectionRule {α : Type} (name : String) (ofTable : List (Value × Value) → Checked α) : Rule α
  | .table entries => ofTable entries
  | v => .complain (.notSection name) v

/-- A check of a table whose keys have to be texts, since each is the name of a setting. -/
def named {α : Type} (check : List (Value × Value) → Checked α) (entries : List (Value × Value)) :
    Checked α :=
  if hasTextKeys entries then check entries
  else .fault (.foreign "TypeError" "keywords must be strings")

/-- The settings of a table. -/
def Config.ofTable (home : String) : List (Value × Value) → Checked Config :=
  named fun entries =>
    let extras := entries.filter fun (key, _) => !isSection key
    (fun app input vim => { app, input, vim, extras }) <$>
      field entries "app" (sectionRule "AppConfig" (App.ofTable home)) {}
      <*> field entries "input" (sectionRule "InputConfig" Input.ofTable) {}
      <*> field entries "vim" (sectionRule "VimConfig" Vim.ofTable) {}

/-! ## Fields one by one -/

/-- A field that the settings have. -/
structure Declared where
  /-- Its section and its name. -/
  place : String × String
  /-- What its rule makes of a value. -/
  check : Value → Checked Value
  /-- What it is where it has no value. -/
  default : Value

/-- A field by its rule, its default, and the way in which its content is written as a value. -/
def Declared.of {α : Type} (place : String × String) (rule : Rule α) (write : α → Value) (default : α) :
    Declared where
  place := place
  check v := write <$> rule v
  default := write default

/-- The fields of the application section; `home` is the home directory. -/
def App.declared (home : String) : List Declared :=
  let d : App := {}
  [.of ("app", "name") .someText .text d.name,
    .of ("app", "version") .text .text d.version,
    .of ("app", "debug") .flag .bool d.debug,
    .of ("app", "log_level") .level (.text ·.name) d.logLevel,
    .of ("app", "verbose_logging") .flag .bool d.verboseLogging,
    .of ("app", "log_file") (.filePath home) (fun path? => (path?.map Value.text).getD .null) d.logFile,
    .of ("app", "max_log_size_mb") (.count 1 1000) .int d.maxLogSizeMb,
    .of ("app", "backup_count") (.count 1 100) .int d.backupCount]

/-- The fields of the section about input lines. -/
def Input.declared : List Declared :=
  let d : Input := {}
  [.of ("input", "prefix") .text .text d.lead,
    .of ("input", "default_command") .oneToken .text d.defaultCommand,
    .of ("input", "list_all_commands") .flag .bool d.listAllCommands,
    .of ("input", "empty_hint") .text .text d.emptyHint]

/-- The fields of the section about motions. -/
def Vim.declared : List Declared :=
  let d : Vim := {}
  [.of ("vim", "enabled") .flag .bool d.enabled,
    .of ("vim", "highlight_hint") .text .text d.highlightHint,
    .of ("vim", "key_format") .keyTemplate .text d.keyFormat]

/-- All fields that the settings have. -/
def declared (home : String) : List Declared := App.declared home ++ Input.declared ++ Vim.declared

/-! ## Changes -/

/-- Whether a name is that of a note on an object rather than of a setting. -/
def isNote (name : String) : Bool := name.startsWith "_"

/-- What an object tells about itself under a name; it cannot be set. -/
def derivedNames : List String := ["model_extra", "model_fields_set", "__fields_set__"]

/-- Why a name of an object of the given class cannot be set to a value, whatever its fields are. -/
def refusal? (owner name : String) (value : Value) : Option Fault :=
  if derivedNames.contains name then
    some (.foreign "AttributeError" s!"property '{name}' of '{owner}' object has no setter")
  else match name, value with
    | "__class__", value =>
      some (.foreign "TypeError" s!"__class__ must be set to a class, not '{value.typeName}' object")
    | "__dict__", .table _ => none
    | "__dict__", value =>
      some (.foreign "TypeError" s!"__dict__ must be set to a dictionary, not a '{value.typeName}'")
    | "__weakref__", _ =>
      some (.foreign "AttributeError" s!"attribute '__weakref__' of '{owner}' objects is not writable")
    | _, _ => none

/-- The settings with their notes among the entries.  An entry that is there already stays. -/
def Config.withNotes (c : Config) : Config :=
  { c with
    extras := c.extras.foldl (fun entries (key, value) => Value.insert key value entries) c.notes
    notes := [] }

/-- Changes one entry of the settings.  A note is put on them unchecked; the next change that passes
its check takes the notes for entries. -/
def Config.assign (home : String) (c : Config) (name : String) (value : Value) : Checked Config :=
  match refusal? "OmniCLIConfig" name value with
  | some fault => .fault fault
  | none =>
    let changed {α : Type} (check : Checked α) (set : Config → α → Config) : Checked Config :=
      (check.within name).map (set c.withNotes)
    if isNote name then .ok { c with notes := Value.insert (.text name) value c.notes }
    else match name with
      | "app" =>
        changed (sectionRule "AppConfig" (App.ofTable home) value) fun c app => { c with app }
      | "input" =>
        changed (sectionRule "InputConfig" Input.ofTable value) fun c input => { c with input }
      | "vim" => changed (sectionRule "VimConfig" Vim.ofTable value) fun c vim => { c with vim }
      | _ =>
        let c := c.withNotes
        .ok { c with extras := Value.insert (.text name) value c.extras }

/-- Sets a field of a section that stands alone to a value as it is.  A section has no other fields
than its own. -/
def setField (section_ : String) (fields : List (String × Value)) (name : String) (value : Value) :
    Except Fault (List (String × Value)) :=
  match refusal? section_ name value with
  | some fault => .error fault
  | none =>
    if isNote name then .ok fields
    else if (fields.lookup name).isSome then
      .ok (fields.map fun (key, old) => (key, if key == name then value else old))
    else .error (.foreign "ValueError" s!"\"{section_}\" object has no field \"{name}\"")

/-- The section about input lines with some of its fields replaced. -/
def Input.override (i : Input) (entries : List (Value × Value)) : Checked Input :=
  Input.ofTable <|
    entries.foldl (fun fields (key, value) => Value.insert key value fields) (table i.fields)

end CommandPalette.Settings
