import CommandPalette.Motion.Keymap
import CommandPalette.Value.Arithmetic

/-!
# Indices and sizes given as values

* `codeOfValue`: the code of an index.
* `Keymap.ofSize`: the codes of a menu of a given size.
* `Keymap.keyAt`, `Keymap.indexAt?`: look-ups.
-/

namespace CommandPalette.Motion

/-- The code of an index that is given as a value. -/
def codeOfValue (v : Value) : Except Fault (List Char) :=
  match v.whole?, v with
  | some n, _ => .ok (codeOfInt n)
  | none, .float _ =>
    .error (.foreign "TypeError" "string indices must be integers, not 'float'")
  | none, v =>
    .error (.foreign "TypeError"
      s!"'>=' not supported between instances of '{v.typeName}' and 'int'")

namespace Keymap

/-- The codes of a menu whose size is given as a value.  Any number below zero is a size of the empty
menu. -/
def ofSize (v : Value) : Except Fault Keymap :=
  match v.whole?, v with
  | some n, _ => .ok (generate n)
  | none, .float x =>
    if x.isBelowZero then .ok {}
    else .error (.foreign "TypeError" "'float' object cannot be interpreted as an integer")
  | none, v =>
    .error (.foreign "TypeError"
      s!"'>' not supported between instances of 'int' and '{v.typeName}'")

/-- The code of an entry whose index is given as a value.  No entry is at a value that is no
integer. -/
def keyAt (k : Keymap) (v : Value) : Except Fault (List Char) := do
  v.checkKey
  return (v.index?.map k.keyFor).getD []

/-- The entry that a code leads to, where the code is given as a value. -/
def indexAt? (k : Keymap) (v : Value) : Except Fault (Option Nat) := do
  v.checkKey
  match v with
  | .text s => return k.indexFor? s.toList
  | _ => return none

end Keymap

end CommandPalette.Motion
