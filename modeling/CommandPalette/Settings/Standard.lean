import CommandPalette.EnvFile
import CommandPalette.Settings.Readers
import CommandPalette.Settings.Reading
import CommandPalette.Yaml.Reading

/-!
# The standard readers

The readers with which the program runs: documents are YAML, with the tags that stand for scalars, lists
and mappings; files of variables hold a variable on a line; and the rules of the fields decide what is
settings.

* `Readers.standard`: the readers.
-/

namespace CommandPalette.Settings

open CommandPalette.Text

/-- The document in the bytes of a file.  Settings stand in the second level of a table.  What is wrong
with a text that is no document is not put in words. -/
def readDocument (bytes : List UInt8) : Except DocumentFailure Value :=
  match Yaml.read 2 (.ofBytes bytes) with
  | .ok value => .ok value
  | .error (.value fault) => .error (.fault fault)
  | .error _ => .error (.malformed "")

/-- The bytes of a text that starts with a byte-order mark, without the mark. -/
def pastMark : List UInt8 → List UInt8
  | 0xef :: 0xbb :: 0xbf :: rest => rest
  | bytes => bytes

/-- The text of the file of variables at a path, if it is read at all. -/
def variablesText? (files : FileSystem) (path : Path) (environment : Environment) :
    Except Fault (Option (List Char)) :=
  if EnvFile.isSwitchedOff environment then .ok none
  else match files.find path with
    | .ok (.file bytes) => match Utf8.decode (pastMark bytes) with
      | .ok text => .ok (some (unifyNewlines text))
      | .error fault => .error (.foreign "UnicodeDecodeError" fault.message)
    | .ok (.locked false) => .error (FileTree.Refusal.denied.fault path.text)
    | _ => .ok none

/-- The variables of the file at a path, as they are meant in an environment. -/
def readVariables (files : FileSystem) (path : Path) (environment : Environment) :
    List (String × Option String) :=
  match variablesText? files path environment with
  | .ok (some text) => (EnvFile.resolve environment (EnvFile.bindings text)).entries
  | _ => []

/-- An environment with the variables of the file at a path. -/
def bringVariables (files : FileSystem) (path : Path) (environment : Environment) :
    Environment × Option Fault :=
  match variablesText? files path environment with
  | .ok (some text) => EnvFile.load text environment
  | .ok none => (environment, none)
  | .error fault => (environment, some fault)

/-- What the field at a place makes of a value.  Of other places nothing is known. -/
def checkField (home : String) (place : String × String) (value : Value) : Checked Value :=
  match (declared home).find? (·.place = place) with
  | some d => d.check value
  | none => .ok value

/-- The readers with which the program runs. -/
def Readers.standard : Readers where
  document := readDocument
  listed := readVariables
  bring := bringVariables
  settings := Config.ofTable
  field := checkField

end CommandPalette.Settings
