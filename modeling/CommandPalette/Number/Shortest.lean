import CommandPalette.Number.Binary64

/-!
# The shortest text of a double

A double is written with the fewest digits that read back as the same double, and of those with the
digits nearest to it.  All comparisons are between integers: the reals that round to `m · 2 ^ q` form
an interval whose ends are halfway to the neighbouring doubles, and its ends belong to it exactly
when `m` is even.

* `shortestDigits`: the digits and the power of ten they count.
* `FloatStyle`, `floatStyle`: the format's own decisions, where positional notation ends and how an
  exponent is written.
* `showFloat`: the text.
-/

namespace CommandPalette.Number

/-- Compares `a · 10 ^ j` with `b · 2 ^ e`. -/
def compareScaled (a : Nat) (j : Int) (b : Nat) (e : Int) : Ordering :=
  let left := if j < 0 then a else a * tenTo j.natAbs
  let right := if j < 0 then b * tenTo j.natAbs else b
  let left := if e < 0 then left * twoTo e.natAbs else left
  let right := if e < 0 then right else right * twoTo e.natAbs
  compare left right

/-- The interval of the reals that round to a double, as quarters of a unit of its mantissa. -/
structure Interval where
  /-- Lower end. -/
  low : Nat
  /-- Upper end. -/
  high : Nat
  /-- Power of two of a quarter unit. -/
  exponent : Int
  /-- Whether the ends round to the double as well. -/
  closed : Bool

/-- Below a power of two the doubles lie twice as close as above it. -/
def Interval.around (m : Nat) (q : Int) : Interval where
  low := if m = twoTo 52 && Binary64.minExponent < q then 4 * m - 1 else 4 * m - 2
  high := 4 * m + 2
  exponent := q - 2
  closed := m % 2 = 0

/-- Whether `c · 10 ^ j` lies in the interval. -/
def Interval.holds (i : Interval) (c : Nat) (j : Int) : Bool :=
  let below := compareScaled c j i.low i.exponent
  let above := compareScaled c j i.high i.exponent
  (below == .gt || (i.closed && below == .eq)) && (above == .lt || (i.closed && above == .eq))

/-- `m · 2 ^ q` in units of `10 ^ j`: the integer part, and how the rest compares with a half. -/
def onGrid (m : Nat) (q j : Int) : Nat × Ordering :=
  let num := (if q < 0 then m else m * twoTo q.natAbs) * (if j < 0 then tenTo j.natAbs else 1)
  let den := (if q < 0 then twoTo q.natAbs else 1) * (if j < 0 then 1 else tenTo j.natAbs)
  (num / den, compare (2 * (num % den)) den)

/-- The candidate on the grid `10 ^ j` that reads back, if the grid has one: of the double's two
neighbours on the grid the nearer that lies in the interval. -/
def gridCandidate? (m : Nat) (q : Int) (j : Int) : Option Nat :=
  let i := Interval.around m q
  let (c, rest) := onGrid m q j
  let down := i.holds c j && c != 0
  let up := i.holds (c + 1) j
  if down && up then
    some (match rest with
      | .lt => c
      | .gt => c + 1
      | .eq => if c % 2 = 0 then c else c + 1)
  else if down then some c
  else if up then some (c + 1)
  else none

/-- The power of ten of the first digit of `m · 2 ^ q`, counted down from `top` until a grid has a
non-zero integer part. -/
def leadingPower (m : Nat) (q : Int) : Nat → Int → Int
  | 0, top => top
  | fuel + 1, top => if (onGrid m q top).1 = 0 then leadingPower m q fuel (top - 1) else top

/-- Tries the grids of one digit, two digits, and so on down from `10 ^ j`. -/
def firstGrid (m : Nat) (q : Int) : Nat → Int → Nat × Int
  | 0, j => ((onGrid m q j).1, j)
  | fuel + 1, j => match gridCandidate? m q j with
    | some c => (c, j)
    | none => firstGrid m q fuel (j - 1)

/-- Removes the zeros at the end of a number, counting them in the power of ten. -/
def dropZeros : Nat → Nat → Int → Nat × Int
  | 0, c, j => (c, j)
  | fuel + 1, c, j => if c != 0 && c % 10 = 0 then dropZeros fuel (c / 10) (j + 1) else (c, j)

/-- The digits of a positive double and the power of ten of the last one: the coarsest grid that has
a number reading back as the double. -/
def shortestDigits (m : Nat) (q : Int) : Nat × Int :=
  let estimate : Int := ((m.log2 : Int) + q) * 30103 / 100000 + 2
  let (c, j) := firstGrid m q 17 (leadingPower m q 6 estimate)
  dropZeros 20 c j

/-- Where positional notation ends and how the rest is written. -/
structure FloatStyle where
  /-- A first digit at this power of ten or below is written with an exponent. -/
  tiny : Int
  /-- A first digit at this power of ten or above is written with an exponent. -/
  huge : Int
  /-- The least count of digits in an exponent. -/
  exponentDigits : Nat

/-- Positional from `0.0001` up to below `1e+16`, and exponents of at least two digits. -/
def floatStyle : FloatStyle := ⟨-5, 16, 2⟩

/-- The exponent with its sign. -/
def showExponent (style : FloatStyle) (e : Int) : String :=
  let digits := toString e.natAbs
  (if e < 0 then "e-" else "e+") ++ "".pushn '0' (style.exponentDigits - digits.length) ++ digits

/-- Lays out digits whose last one counts `10 ^ j`. -/
def layoutDigits (style : FloatStyle) (c : Nat) (j : Int) : String :=
  let digits := (Nat.toDigits 10 c)
  let first : Int := j + digits.length - 1
  if first ≤ style.tiny || style.huge ≤ first then
    let tail := digits.tail
    String.ofList (digits.take 1 ++ if tail.isEmpty then [] else '.' :: tail) ++
      showExponent style first
  else if first < 0 then
    "0." ++ "".pushn '0' (first.natAbs - 1) ++ String.ofList digits
  else
    let whole := first.toNat + 1
    let (front, back) := (digits.take whole, digits.drop whole)
    String.ofList front ++ "".pushn '0' (whole - digits.length) ++ "." ++
      (if back.isEmpty then "0" else String.ofList back)

/-- The text of a double: the fewest digits that read back. -/
def showFloat : Binary64 → String
  | .nan => "nan"
  | .infinite negative => if negative then "-inf" else "inf"
  | .finite negative m q =>
    (if negative then "-" else "") ++
      if m = 0 then "0.0"
      else
        let (c, j) := shortestDigits m q
        layoutDigits floatStyle c j

end CommandPalette.Number
