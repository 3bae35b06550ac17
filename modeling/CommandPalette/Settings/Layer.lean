import CommandPalette.Number.Reader
import CommandPalette.Settings.Config
import CommandPalette.Text.Case
import CommandPalette.Text.Run

/-!
# Layers of settings

Settings come in layers, and each layer is laid over the ones before it: files first, the variables
of the environment last.

* `overlay`: a table laid over another one, entry by entry at every depth.
* `setAt`: one entry deep inside a table.
* `ofVariable`: the value that the text of a variable stands for.
* `overlayVariables`: the variables of the environment laid over a table.
-/

namespace CommandPalette.Settings

open CommandPalette.Number CommandPalette.Text

/-! ## Tables over tables -/

mutual

/-- A table laid over another one. -/
def overlay (base : List (Value × Value)) : List (Value × Value) → List (Value × Value)
  | [] => base
  | (key, value) :: rest =>
    overlay (Value.insert key (overlayValue (Value.lookup? key base) value) base) rest

/-- A value laid over one that may be there: tables are laid over each other, and any other value
replaces what was there. -/
def overlayValue (old : Option Value) : Value → Value
  | .table entries => match old with
    | some (.table base) => .table (overlay base entries)
    | _ => .table entries
  | value => value

end

/-- Sets the entry at a path.  Tables that are missing on the way are made; where something else is
on the way, nothing is set. -/
def setAt (value : Value) : List String → List (Value × Value) → List (Value × Value)
  | [], entries => entries
  | [name], entries => Value.insert (.text name) value entries
  | name :: rest, entries => match Value.lookup? (.text name) entries with
    | none => Value.insert (.text name) (.table (setAt value rest [])) entries
    | some (.table inner) =>
      Value.insert (.text name) (.table (setAt value rest inner)) entries
    | some _ => entries

/-! ## Variables -/

/-- What all variables that hold settings start with. -/
def variableLead : String := "OMNICLI_"

/-- The variable that names the environment; it holds no setting. -/
def environmentVariable : String := "OMNICLI_ENV"

/-- The items of a list that is written with commas. -/
def commaItems (s : List Char) : List Value :=
  (pieces (· == ',') s).map fun piece => .text (String.ofList (trim piece))

/-- The number that a text is written as; a dot tells decimals from integers. -/
def numeral? (s : List Char) : Option Value :=
  if s.contains '.' then (readFloat? s).map .float else (readInt? s).map .int

/-- The value that a text stands for: a truth value, a number, a list, or the text itself. -/
def ofVariable (text : String) : Value :=
  if ["true", "yes", "on"].contains (Case.lower text) then .bool true
  else if ["false", "no", "off"].contains (Case.lower text) then .bool false
  else match numeral? text.toList with
    | some number => number
    | none => if text.toList.contains ',' then .list (commaItems text.toList) else .text text

/-- The section and the field that a variable sets: the first word after the lead is the section. -/
def settingOf? (variableName : String) : Option (String × String) :=
  if !variableLead.isPrefixOf variableName || variableName == environmentVariable then none
  else
    let place := (Case.lower (String.ofList (variableName.toList.drop variableLead.length))).toList
    let name := place.takeWhile (· != '_')
    let field := (place.dropWhile (· != '_')).drop 1
    if name.isEmpty || field.isEmpty then none else some (String.ofList name, String.ofList field)

/-- The variables of the environment laid over a table, one after the other. -/
def overlayVariables (environment : List (String × String))
    (entries : List (Value × Value)) : List (Value × Value) :=
  environment.foldl (fun entries (name, text) =>
    match settingOf? name with
    | some (section_, field) => setAt (ofVariable text) [section_, field] entries
    | none => entries) entries

end CommandPalette.Settings
