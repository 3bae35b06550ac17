import CommandPalette.Fault
import CommandPalette.Number.Arithmetic

/-!
# Arithmetic of values

Offsets may be handed in as values of any type.

* `Value.whole?`, `Value.index?`: the integer that a value counts as.
* `Value.add`: the sum of two values: numbers add up, texts and lists are joined.
* `Value.remainder`: what is left of a value after division by a size.
-/

namespace CommandPalette.Value

open CommandPalette.Number CommandPalette.Text

/-- The integer of a value that counts as one. -/
def whole? : Value → Option Int
  | int n => some n
  | bool b => some (ofBool b)
  | _ => none

/-- The integer that a value equals, if there is one. -/
def index? (v : Value) : Option Int :=
  match v with
  | float x => x.toInt?
  | v => v.whole?

/-- The double nearest to an integer; none is near an integer beyond all doubles. -/
def doubleOf (n : Int) : Except Fault Binary64 :=
  let x := Binary64.ofInt n
  if x.isSpecial then .error (.foreign "OverflowError" "int too large to convert to float")
  else .ok x

/-- The sum of two values.  A text goes on with a text only, and a list with the items of anything
that has items. -/
def add (a b : Value) : Except Fault Value :=
  match a.whole?, a, b.whole?, b with
  | some m, _, some n, _ => .ok (int (m + n))
  | some m, _, none, float y => do return float ((← doubleOf m).add y)
  | none, float x, some n, _ => do return float (x.add (← doubleOf n))
  | none, float x, none, float y => .ok (float (x.add y))
  | none, text s, none, text t => .ok (text (s ++ t))
  | none, text _, _, b =>
    .error (.foreign "TypeError" s!"can only concatenate str (not \"{b.typeName}\") to str")
  | none, list items, _, b => match b.items? with
    | some more => .ok (list (items ++ more))
    | none => .error (.notIterable b.typeName)
  | _, a, _, b => .error (.noOperation "+=" a.typeName b.typeName)

theorem add_int (m n : Int) : add (int m) (int n) = .ok (int (m + n)) := rfl

/-- What is left of a value after division by a size.  A text is a template that the size is filled
into. -/
def remainder (v : Value) (size : Nat) : Except Fault Value :=
  match v.whole?, v with
  | some n, _ => .ok (int (n % size))
  | none, float x => .ok (float (x.remainder size))
  | none, text s => (Percent.render s (.ofValue (int size))).map text |>.mapError .percent
  | none, v => .error (.noOperation "%" v.typeName "int")

theorem remainder_int (n : Int) (size : Nat) : remainder (int n) size = .ok (int (n % size)) := rfl

end CommandPalette.Value
