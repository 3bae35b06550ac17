import CommandPalette.Number.Fixed
import CommandPalette.Number.Shortest

/-!
# Doubles with a given number of digits

The size of a double, without its sign, in the three layouts of format strings.

* `fixedDigits`: a number of places after the point.
* `scientificDigits`: one digit before the point, and an exponent of at least two digits.
* `generalDigits`: a number of digits in all, with an exponent where the number is large or small.
-/

namespace CommandPalette.Number

/-- The power of ten of the first digit of `m · 2 ^ q`. -/
def firstPower (m : Nat) (q : Int) : Int :=
  if m = 0 then 0 else leadingPower m q 6 (((m.log2 : Int) + q) * 30103 / 100000 + 2)

/-- `m · 2 ^ q` in units of `10 ^ j`, rounded. -/
def roundOnGrid (m : Nat) (q j : Int) : Nat :=
  let num := (if q < 0 then m else m * twoTo q.natAbs) * (if j < 0 then tenTo j.natAbs else 1)
  let den := (if q < 0 then twoTo q.natAbs else 1) * (if j < 0 then 1 else tenTo j.natAbs)
  roundDiv num den

/-- The given number of digits of `m · 2 ^ q`, and the power of ten of the first one. -/
def leadingDigits (count m : Nat) (q : Int) : Nat × Int :=
  let power := firstPower m q
  let n := roundOnGrid m q (power - count + 1)
  if n = tenTo count then (tenTo (count - 1), power + 1) else (n, power)

/-- A number of places after the point; `keepPoint` writes the point even before no places. -/
def fixedDigits (keepPoint : Bool) (places m : Nat) (q : Int) : String :=
  placePoint places (roundOnGrid m q (-places)) ++ if keepPoint && places = 0 then "." else ""

/-- One digit before the point, `places` after it, and an exponent. -/
def scientificDigits (keepPoint : Bool) (places m : Nat) (q : Int) : String :=
  let (n, power) := leadingDigits (places + 1) m q
  placePoint places n ++ (if keepPoint && places = 0 then "." else "") ++
    showExponent floatStyle power

/-- A text without the zeros that end its fraction. -/
def dropTrailingZeros (s : String) : String :=
  if s.toList.contains '.' then
    let body := (s.toList.reverse.dropWhile (· == '0')).dropWhile (· == '.')
    String.ofList body.reverse
  else s

/-- A number of digits in all; with an exponent below `0.0001`, and where the digits do not reach
the point. -/
def generalDigits (keepZeros : Bool) (count m : Nat) (q : Int) : String :=
  let count := max count 1
  let (_, power) := leadingDigits count m q
  if -4 ≤ power && power < count then
    let s := fixedDigits keepZeros (count - 1 - power).toNat m q
    if keepZeros then s else dropTrailingZeros s
  else
    let (n, power) := leadingDigits count m q
    let s := placePoint (count - 1) n
    (if keepZeros then (if count = 1 then s ++ "." else s) else dropTrailingZeros s) ++
      showExponent floatStyle power

end CommandPalette.Number
