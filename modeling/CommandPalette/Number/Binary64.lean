/-!
# Binary floating-point numbers of 64 bits

Fractional settings are doubles.  A double is kept as what it denotes: a sign, a mantissa of at most
53 bits and a power of two, or one of the values that are no number.  Rounding is exact integer
arithmetic, so every statement about it is a statement about integers.

* `Binary64`: the values.
* `Binary64.ofRatio`: the double nearest to a quotient, a tie going to the even mantissa.
* `Binary64.ofDecimal`: the double nearest to `digits · 10 ^ exponent`.
* `Binary64.toInt?`: the integer that a double denotes exactly.
-/

namespace CommandPalette.Number

/-- A double: `± mantissa · 2 ^ exponent`, an infinity, or not a number.  In a finite double the
mantissa has 53 bits, or the exponent is the least one, `-1074`. -/
inductive Binary64 where
  | nan
  | infinite (negative : Bool)
  | finite (negative : Bool) (mantissa : Nat) (exponent : Int)
  deriving DecidableEq, Repr, Inhabited

/-- A power of two. -/
def twoTo (n : Nat) : Nat := Nat.pow 2 n

/-- A power of ten. -/
def tenTo (n : Nat) : Nat := Nat.pow 10 n

/-- The quotient rounded to the nearest integer, a tie going to the even one. -/
def roundDiv (num den : Nat) : Nat :=
  let q := num / den
  let twice := 2 * (num % den)
  if twice < den then q
  else if twice = den then q + q % 2
  else q + 1

namespace Binary64

/-- The least exponent of a finite double. -/
def minExponent : Int := -1074

/-- The greatest exponent of a finite double. -/
def maxExponent : Int := 971

/-- `num / den · 2 ^ (-exponent)`, rounded. -/
def scaled (num den : Nat) (exponent : Int) : Nat :=
  if exponent < 0 then roundDiv (num * twoTo exponent.natAbs) den
  else roundDiv num (den * twoTo exponent.natAbs)

/-- The double nearest to `± num / den`; where the quotient lies beyond the greatest double, an
infinity. -/
def ofRatio (negative : Bool) (num den : Nat) : Binary64 :=
  if num = 0 then finite negative 0 minExponent
  else
    -- the quotient lies between `2 ^ (guess + 52)` and `2 ^ (guess + 54)`
    let guess : Int := (num.log2 : Int) - den.log2 - 53
    let floor53 := if guess < 0 then num * twoTo guess.natAbs / den else num / (den * twoTo guess.natAbs)
    let exponent := max minExponent (if floor53 < twoTo 53 then guess else guess + 1)
    let m := scaled num den exponent
    let (m, exponent) := if m = twoTo 53 then (twoTo 52, exponent + 1) else (m, exponent)
    if exponent > maxExponent then infinite negative else finite negative m exponent

/-- The double nearest to `± digits · 10 ^ exponent`.  Powers of ten that no double comes near are
decided by the count of digits alone. -/
def ofDecimal (negative : Bool) (digits : Nat) (exponent : Int) : Binary64 :=
  if digits = 0 then finite negative 0 minExponent
  else
    let size : Int := (digits.log2 : Int) * 30103 / 100000 + exponent
    if size > 330 then infinite negative
    else if size < -340 then finite negative 0 minExponent
    else if exponent < 0 then ofRatio negative digits (tenTo exponent.natAbs)
    else ofRatio negative (digits * tenTo exponent.natAbs) 1

/-- The double nearest to an integer. -/
def ofInt (n : Int) : Binary64 := ofRatio (n < 0) n.natAbs 1

/-- The size of a finite double as a fraction. -/
def magnitude (mantissa : Nat) (exponent : Int) : Nat × Nat :=
  if exponent < 0 then (mantissa, twoTo exponent.natAbs) else (mantissa * twoTo exponent.natAbs, 1)

/-- The integer that a double denotes exactly; none for a fraction, an infinity and no number. -/
def toInt? : Binary64 → Option Int
  | finite negative m e =>
    let (num, den) := magnitude m e
    if num % den = 0 then
      let n : Int := (num / den : Nat)
      some (if negative then -n else n)
    else none
  | _ => none

/-- Whether a double is an infinity or not a number. -/
def isSpecial : Binary64 → Bool
  | finite .. => false
  | _ => true

/-- Whether two doubles count as the same number: the zeros agree, and not-a-number agrees with
nothing. -/
def same : Binary64 → Binary64 → Bool
  | infinite a, infinite b => a == b
  | finite a m e, finite b n f =>
    let (num, den) := magnitude m e
    let (num', den') := magnitude n f
    num * den' == num' * den && (a == b || num == 0)
  | _, _ => false

/-- Whether a double is less than zero. -/
def isBelowZero : Binary64 → Bool
  | infinite negative => negative
  | finite negative m _ => negative && m != 0
  | nan => false

/-- Whether a double is a zero of either sign. -/
def isZero : Binary64 → Bool
  | finite _ 0 _ => true
  | _ => false

end Binary64

end CommandPalette.Number
