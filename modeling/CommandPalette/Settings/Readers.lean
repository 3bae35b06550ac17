import CommandPalette.Environment
import CommandPalette.FileTree
import CommandPalette.Settings.Config
import CommandPalette.Settings.Problem

/-!
# Readers

Loading settings leaves three things to others: reading the document in a file, reading a file of
variables, and checking the settings in a table.  Whatever loads settings is handed the readers that do
this.

* `Readers`: the readers.
-/

namespace CommandPalette.Settings

/-- Why there is no document in a file. -/
inductive DocumentFailure where
  /-- The text is no document, for the reason given in words. -/
  | malformed (words : String)
  /-- Something else went wrong. -/
  | fault (fault : Fault)
  deriving Inhabited

/-- What loading settings leaves to others. -/
structure Readers where
  /-- The document in the bytes of a file; a file without one holds null. -/
  document : List UInt8 → Except DocumentFailure Value
  /-- The variables of the file at a path, as they are meant in an environment; some have no value. -/
  listed : FileSystem → Path → Environment → List (String × Option String)
  /-- An environment with the variables of the file at a path, and the fault that stopped this, if there
  was one. -/
  bring : FileSystem → Path → Environment → Environment × Option Fault
  /-- The settings of a table with texts as keys, or all that is wrong with them; the first argument is the
  home directory. -/
  settings : String → List (Value × Value) → Checked Config
  /-- What the field at a place makes of a value; the first argument is the home directory. -/
  field : String → String × String → Value → Checked Value

end CommandPalette.Settings
