import CommandPalette.Environment
import CommandPalette.Proofs.Table

/-!
# Variables that are missing

* `Environment.set_eq`: whether a variable can be set does not depend on the others.
* `Environment.missing`: those of a list of variables that an environment lacks.
-/

namespace CommandPalette.Environment

/-- Whether a variable is refused does not depend on the others, which stay as they are. -/
lemma set_eq (environment : Environment) (name value : String) :
    environment.set name value = (Environment.set {} name value).map fun _ => environment.insert name value := by
  rw [Environment.set, Environment.set]
  split
  · rfl
  split
  · rfl
  split
  · rfl
  · rfl

/-- Those of a list of variables that have values and that an environment lacks. -/
def missing (environment : Environment) : List (String × Option String) → List (String × String)
  | [] => []
  | (_, none) :: rest => missing environment rest
  | (name, some value) :: rest =>
    if environment.contains name then missing environment rest
    else (name, value) :: missing environment rest

end CommandPalette.Environment
