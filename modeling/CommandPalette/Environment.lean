import CommandPalette.Fault
import CommandPalette.Table

/-!
# The environment of a process

* `Environment`: the variables.
* `Environment.set`, `Environment.setValue`: a variable is set.
-/

namespace CommandPalette

/-- The variables of a process, the oldest first. -/
abbrev Environment := Table String

/-- Sets a variable.  A zero byte is refused anywhere, and a name must neither be empty nor have an
equals sign in it. -/
def Environment.set (environment : Environment) (name value : String) : Except Fault Environment :=
  if name.toList.contains '\x00' || value.toList.contains '\x00' then
    .error (.foreign "ValueError" "embedded null byte")
  else if name.toList.contains '=' then
    .error (.foreign "ValueError" "illegal environment variable name")
  else if name.isEmpty then .error (.foreign "OSError" "[Errno 22] Invalid argument")
  else .ok (environment.insert name value)

/-- Sets a variable to a value, which has to be a text. -/
def Environment.setValue (environment : Environment) (name : String) (value : Value) :
    Except Fault Environment :=
  match value with
  | .text s => environment.set name s
  | v => .error (.foreign "TypeError" s!"str expected, not {v.typeName}")

end CommandPalette
