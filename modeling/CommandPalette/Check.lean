import CommandPalette.Command.Name
import CommandPalette.Text.Case

/-!
# Checking inputs

A check says what a value of unknown type has to be: present, of a type, and accepted by a validator.
A validator may also change the value.  What a validator complains about is reported as it is when it
is a refusal of ours, and otherwise under the name of the field that was checked.

* `Check`: what is checked.
* `Check.run`: the checked value, or the refusal.
* `Check.upper`, `Check.size`: two validators.
-/

namespace CommandPalette

/-- A function that accepts a value, changes it, or refuses it. -/
abbrev Validator := Value → Except Fault Value

/-- What a value has to be. -/
structure Check where
  /-- The name of the value in messages. -/
  field : String
  /-- The type it has to have. -/
  type : Option String := none
  /-- Whether it has to be there. -/
  required : Bool := true
  /-- What else it has to pass. -/
  validator : Option Validator := none

namespace Check

/-- Whether a value is of a type.  Truth values are integers too, and everything is an object. -/
def isOfType (v : Value) (type : String) : Bool :=
  v.typeName == type || type == "object" || (type == "int" && v.typeName == "bool")

/-- Whether a value is null. -/
def isNull : Value → Bool
  | .null => true
  | _ => false

/-- The refusal of a validator, as the check reports it. -/
def report (field : String) (fault : Fault) : Fault :=
  if fault.rootName == Fault.Kind.validation.name || !fault.isFailure then fault
  else .checkFailed field fault

/-- Runs a check. -/
def run (c : Check) (v : Value) : Except Fault Value := do
  if c.required && isNull v then .error (.invalid s!"{c.field} is required")
  if let some type := c.type then
    if !isNull v && !isOfType v type then
      .error (.invalid s!"{c.field} must be of type {type}, got {v.typeName}")
  match c.validator with
  | none => return v
  | some validator => (validator v).mapError (report c.field)

/-- Makes a text upper-case. -/
def upper : Validator
  | .text s => .ok (.text (Text.Case.upper s))
  | v => .error (.noField v.typeName "upper")

/-- Counts the characters of a text, the items of a list, or the entries of a table. -/
def size : Validator
  | .text s => .ok (.int s.length)
  | .list items => .ok (.int items.length)
  | .table entries => .ok (.int entries.length)
  | v => .error (.noLength v.typeName)

end Check

end CommandPalette
