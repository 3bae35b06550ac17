import CommandPalette.Number.Binary64

/-!
# Dynamic values

Settings, and whatever a host hands in where a declaration is expected, are values of no fixed type.

* `Value`: the values.  The entries of a table stand in the order in which their keys first came.
* `Value.same`: equality of values; numbers of different types are equal when they denote the same
  number, so a table has one entry for `1` and `true`.
* `Value.lookup?`, `Value.insert`: the entries of a table as a map.
-/

namespace CommandPalette

open Number

/-- A value of no fixed type. -/
inductive Value where
  | null
  | bool (b : Bool)
  | int (n : Int)
  | float (x : Binary64)
  | text (s : String)
  | list (items : List Value)
  | table (entries : List (Value × Value))
  /-- A value that is passed through: its type, its plain text, and its text inside a list. -/
  | foreign (type plain quoted : String)
  deriving Inhabited, Repr

namespace Value

/-- The name of a value's type in messages. -/
def typeName : Value → String
  | null => "NoneType"
  | bool _ => "bool"
  | int _ => "int"
  | float _ => "float"
  | text _ => "str"
  | list _ => "list"
  | table _ => "dict"
  | foreign type .. => type

/-- Whether a value counts as true: null, false, zeros and empty values do not. -/
def truthy : Value → Bool
  | null => false
  | bool b => b
  | int n => n != 0
  | float x => !x.isZero
  | text s => !s.isEmpty
  | list items => !items.isEmpty
  | table entries => !entries.isEmpty
  | foreign .. => true

/-- Whether a double denotes the given integer. -/
def sameNumber (n : Int) (x : Binary64) : Bool := x.toInt? == some n

/-- Truth values count as the integers 0 and 1. -/
def ofBool (b : Bool) : Int := if b then 1 else 0

mutual

/-- Equality of values. -/
def same : Value → Value → Bool
  | null, null => true
  | bool a, bool b => a == b
  | bool a, int b => ofBool a == b
  | bool a, float b => sameNumber (ofBool a) b
  | int a, bool b => a == ofBool b
  | int a, int b => a == b
  | int a, float b => sameNumber a b
  | float a, bool b => sameNumber (ofBool b) a
  | float a, int b => sameNumber b a
  | float a, float b => a.same b
  | text a, text b => a == b
  | list a, list b => sameList a b
  | table a, table b => a.length == b.length && sameEntries a b
  | foreign a _ p, foreign b _ q => a == b && p == q
  | _, _ => false

/-- Equality of lists, item by item. -/
def sameList : List Value → List Value → Bool
  | [], [] => true
  | a :: as, b :: bs => same a b && sameList as bs
  | _, _ => false

/-- Whether every entry of the first table is in the second. -/
def sameEntries : List (Value × Value) → List (Value × Value) → Bool
  | [], _ => true
  | (k, v) :: rest, other => other.any (fun (l, w) => same k l && same v w) && sameEntries rest other

end

/-- The value at a key. -/
def lookup? (key : Value) (entries : List (Value × Value)) : Option Value :=
  (entries.find? fun (k, _) => k.same key).map (·.2)

/-- Sets the value at a key.  A key that is there already keeps its place and its spelling. -/
def insert (key value : Value) : List (Value × Value) → List (Value × Value)
  | [] => [(key, value)]
  | (k, v) :: rest => if k.same key then (k, value) :: rest else (k, v) :: insert key value rest

/-- A table from entries in order, where a later entry for a key replaces the value of an earlier
one. -/
def tableOf (entries : List (Value × Value)) : Value :=
  table (entries.foldl (fun table (k, v) => insert k v table) [])

/-- The items that a value yields when it is gone through, for the types that can be: a list its
items, a text its characters, a table its keys. -/
def items? : Value → Option (List Value)
  | list items => some items
  | text s => some (s.toList.map fun c => text (String.ofList [c]))
  | table entries => some (entries.map (·.1))
  | _ => none

end Value

end CommandPalette
