import CommandPalette.Value.Basic
import CommandPalette.Number.Shortest
import CommandPalette.Text.Quoted

/-!
# The text of a value

A value shows as plain text where it stands alone, and with its texts quoted where it stands inside
a list or a table.

* `Value.plain`: the text of a value by itself.
* `Value.quoted`: the text of a value inside another.
* `Value.isWritable`: whether a value has a text at all; integers of too many digits have none.
-/

namespace CommandPalette.Value

open CommandPalette.Number CommandPalette.Text

mutual

/-- The text of a value inside another. -/
def quoted : Value → String
  | null => "None"
  | bool b => if b then "True" else "False"
  | int n => toString n
  | float x => showFloat x
  | text s => quote s
  | list items => "[" ++ ", ".intercalate (quotedItems items) ++ "]"
  | table entries => "\x7b" ++ ", ".intercalate (quotedEntries entries) ++ "\x7d"
  | foreign _ _ quoted => quoted

/-- The texts of the items of a list. -/
def quotedItems : List Value → List String
  | [] => []
  | item :: rest => quoted item :: quotedItems rest

/-- The texts of the entries of a table. -/
def quotedEntries : List (Value × Value) → List String
  | [] => []
  | (key, value) :: rest => (quoted key ++ ": " ++ quoted value) :: quotedEntries rest

end

/-- The text of a value by itself. -/
def plain : Value → String
  | text s => s
  | foreign _ plain _ => plain
  | value => quoted value

/-! ## Values without a text -/

/-- The most digits of an integer that is written. -/
def maxDigits : Nat := 4300

/-- The least integer with more digits than are written. -/
def leastLong : Nat := tenTo maxDigits

/-- Whether an integer has more digits than are written. -/
def isLong (n : Int) : Bool := leastLong ≤ n.natAbs

mutual

/-- Whether no integer of a value has more digits than are written. -/
def isWritable : Value → Bool
  | int n => !isLong n
  | list items => areWritable items
  | table entries => areWritableEntries entries
  | _ => true

/-- Whether no integer of a list has more digits than are written. -/
def areWritable : List Value → Bool
  | [] => true
  | item :: rest => isWritable item && areWritable rest

/-- Whether no integer of a table has more digits than are written. -/
def areWritableEntries : List (Value × Value) → Bool
  | [] => true
  | (key, value) :: rest => isWritable key && isWritable value && areWritableEntries rest

end

/-- The text of a value by itself, if it has one. -/
def plain? (v : Value) : Option String := if v.isWritable then some v.plain else none

/-- The text of a value inside another, if it has one. -/
def quoted? (v : Value) : Option String := if v.isWritable then some v.quoted else none

/-- The text of a list of texts. -/
def quotedTexts (texts : List String) : String := quoted (list (texts.map text))

end CommandPalette.Value
