import CommandPalette.Value.Show

/-!
# Values as JSON

* `Value.json`: the text of a value, in ASCII alone.  Keys become texts; a key that is a list or a
  table is refused, and so is an integer of too many digits.
-/

namespace CommandPalette

open CommandPalette.Number CommandPalette.Text

namespace Json

/-- Why a value has no text. -/
inductive Refusal where
  /-- A key of this type. -/
  | key (type : String)
  /-- An integer of too many digits. -/
  | longInteger
  deriving DecidableEq, Repr, Inhabited

/-- Four hexadecimal digits of a code unit. -/
def unitEscape (n : Nat) : List Char := '\\' :: 'u' :: hexDigits 4 n

/-- A character inside a text.  Characters beyond the sixteen-bit units are written as two of them. -/
def escapeChar (c : Char) : List Char :=
  if c = '"' || c = '\\' then ['\\', c]
  else if c = '\n' then ['\\', 'n']
  else if c = '\r' then ['\\', 'r']
  else if c = '\t' then ['\\', 't']
  else if c = '\x08' then ['\\', 'b']
  else if c = '\x0c' then ['\\', 'f']
  else if 0x20 ≤ c.toNat && c.toNat < 0x7f then [c]
  else if c.toNat < 0x10000 then unitEscape c.toNat
  else
    let n := c.toNat - 0x10000
    unitEscape (0xd800 + n / 0x400) ++ unitEscape (0xdc00 + n % 0x400)

/-- A text in quotes. -/
def quoted (s : String) : String :=
  String.ofList ('"' :: s.toList.flatMap escapeChar ++ ['"'])

/-- A double; the values that are no numbers have names. -/
def number : Binary64 → String
  | .nan => "NaN"
  | .infinite negative => if negative then "-Infinity" else "Infinity"
  | x => showFloat x

/-- An object from its keys and the texts of its values. -/
def object (fields : List (String × String)) : String :=
  "\x7b" ++ ", ".intercalate (fields.map fun (key, text) => quoted key ++ ": " ++ text) ++ "\x7d"

end Json

namespace Value

/-- The digits of an integer. -/
def jsonInteger (n : Int) : Except Json.Refusal String :=
  if isLong n then .error .longInteger else .ok (toString n)

/-- A key as a text. -/
def jsonKey : Value → Except Json.Refusal String
  | text s => .ok s
  | null => .ok "null"
  | bool b => .ok (if b then "true" else "false")
  | int n => jsonInteger n
  | float x => .ok (Json.number x)
  | v => .error (.key v.typeName)

mutual

/-- The text of a value, or why it has none. -/
def json : Value → Except Json.Refusal String
  | null => .ok "null"
  | bool b => .ok (if b then "true" else "false")
  | int n => jsonInteger n
  | float x => .ok (Json.number x)
  | text s => .ok (Json.quoted s)
  | foreign _ plain _ => .ok (Json.quoted plain)
  | list items => do return "[" ++ ", ".intercalate (← jsonItems items) ++ "]"
  | table entries => do return Json.object (← jsonEntries entries)

/-- The texts of the items of a list. -/
def jsonItems : List Value → Except Json.Refusal (List String)
  | [] => .ok []
  | item :: rest => do return (← json item) :: (← jsonItems rest)

/-- The keys and the texts of the entries of a table. -/
def jsonEntries : List (Value × Value) → Except Json.Refusal (List (String × String))
  | [] => .ok []
  | (key, value) :: rest => do
    return (← jsonKey key, ← json value) :: (← jsonEntries rest)

end

end Value

end CommandPalette
