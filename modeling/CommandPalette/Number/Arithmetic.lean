import CommandPalette.Number.Binary64

/-!
# Arithmetic of doubles

A result is the exact one rounded once.

* `Binary64.ofScaled`: the double nearest to an integer times a power of two.
* `Binary64.add`, `Binary64.mul`, `Binary64.remainder`: sums, products and remainders.
* `Binary64.floor?`, `Binary64.nearest?`: the integer below a double, and the nearest one.
-/

namespace CommandPalette.Number.Binary64

/-- The double nearest to `mantissa · 2 ^ exponent`, with a sign. -/
def ofScaled (negative : Bool) (mantissa : Nat) (exponent : Int) : Binary64 :=
  let (num, den) := magnitude mantissa exponent
  ofRatio negative num den

/-- A mantissa with its sign. -/
def signed (negative : Bool) (mantissa : Nat) : Int :=
  if negative then -(mantissa : Int) else mantissa

/-- The sum of two doubles.  Only zeros of the same negative sign add up to a negative zero. -/
def add : Binary64 → Binary64 → Binary64
  | nan, _ | _, nan => nan
  | infinite a, infinite b => if a = b then infinite a else nan
  | infinite a, finite .. => infinite a
  | finite .., infinite b => infinite b
  | finite a m e, finite b n f =>
    let exponent := min e f
    let sum := signed a m * twoTo (e - exponent).toNat + signed b n * twoTo (f - exponent).toNat
    ofScaled (sum < 0 || (m == 0 && n == 0 && a && b)) sum.natAbs exponent

/-- The product of two doubles; an infinity times zero is no number. -/
def mul : Binary64 → Binary64 → Binary64
  | nan, _ | _, nan => nan
  | infinite a, infinite b => infinite (a != b)
  | infinite a, finite b n _ | finite b n _, infinite a => if n = 0 then nan else infinite (a != b)
  | finite a m e, finite b n f => ofScaled (a != b) (m * n) (e + f)

/-- What is left of a double after division by a size; it has no sign. -/
def remainder (x : Binary64) (size : Nat) : Binary64 :=
  match x with
  | finite negative m e =>
    let (num, den) := magnitude m e
    ofRatio false (signed negative num % (size * den : Nat)).toNat den
  | _ => nan

/-- The greatest integer that is no greater than a double. -/
def floor? : Binary64 → Option Int
  | finite negative m e =>
    let (num, den) := magnitude m e
    some (Int.fdiv (signed negative num) den)
  | _ => none

/-- The integer nearest to a double, a tie going to the even one. -/
def nearest? : Binary64 → Option Int
  | finite negative m e =>
    let (num, den) := magnitude m e
    some (signed negative (roundDiv num den))
  | _ => none

end CommandPalette.Number.Binary64
