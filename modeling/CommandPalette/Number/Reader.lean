import CommandPalette.Text.Blank
import CommandPalette.Text.Digit
import CommandPalette.Number.Binary64

/-!
# Reading numbers

Numbers arrive as texts from the environment.  Around a number there may be white space, but not the
information separators; its digits may come from any script; one underscore may stand between two
digits.

* `readInt?`: an integer of at most 4300 digits.
* `readFloat?`: a decimal number, an infinity, or not a number.
-/

namespace CommandPalette.Number

open CommandPalette.Text

/-- The longest integer that is read, in digits. -/
def maxIntDigits : Nat := 4300

/-- White space around a number. -/
def isPadding (c : Char) : Bool := isBlank c && !(0x1c ≤ c.toNat && c.toNat ≤ 0x1f)

/-- A text without the white space around it. -/
def unpad (s : List Char) : List Char :=
  ((s.dropWhile isPadding).reverse.dropWhile isPadding).reverse

/-- Splits a sign off. -/
def splitSign : List Char → Bool × List Char
  | '-' :: rest => (true, rest)
  | '+' :: rest => (false, rest)
  | rest => (false, rest)

/-- Digits of any script as their values, an underscore between two of them left out. -/
def digitRun? : List Char → Option (List Nat)
  | [] => none
  | [c] => (digitValue? c).map ([·])
  | c :: '_' :: rest => return (← digitValue? c) :: (← digitRun? rest)
  | c :: rest => return (← digitValue? c) :: (← digitRun? rest)

/-- The number that digits in the given base denote. -/
def ofDigits (base : Nat) (digits : List Nat) : Nat :=
  digits.foldl (fun n d => base * n + d) 0

/-- Reads an integer. -/
def readInt? (s : List Char) : Option Int := do
  let (negative, body) := splitSign (unpad s)
  let digits ← digitRun? body
  if digits.length > maxIntDigits then none
  else
    let n : Int := ofDigits 10 digits
    return if negative then -n else n

/-- Digits that may be missing altogether. -/
def digitsOrNone? : List Char → Option (List Nat)
  | [] => some []
  | s => digitRun? s

/-- An exponent as it stands after its letter. -/
def readExponent? (s : List Char) : Option Int := do
  let (negative, body) := splitSign s
  let n : Int := ofDigits 10 (← digitRun? body)
  return if negative then -n else n

/-- A mantissa with or without a point: its digits and how many of them follow the point. -/
def readMantissa? (s : List Char) : Option (List Nat × Nat) := do
  let whole := s.takeWhile (· != '.')
  match s.dropWhile (· != '.') with
  | [] => return (← digitRun? whole, 0)
  | _ :: fraction =>
    let front ← digitsOrNone? whole
    let back ← digitsOrNone? fraction
    if front.isEmpty && back.isEmpty then none else return (front ++ back, back.length)

/-- The names of the values that have no digits, without regard to case. -/
def readSpecial? (negative : Bool) (s : List Char) : Option Binary64 :=
  let name := String.ofList (s.map Char.toLower)
  if name = "inf" || name = "infinity" then some (.infinite negative)
  else if name = "nan" then some .nan
  else none

/-- Reads a decimal number. -/
def readFloat? (s : List Char) : Option Binary64 := do
  let (negative, body) := splitSign (unpad s)
  if let some special := readSpecial? negative body then return special
  let isExponentMark := fun c => c == 'e' || c == 'E'
  let (digits, places) ← readMantissa? (body.takeWhile (!isExponentMark ·))
  let exponent ← match body.dropWhile (!isExponentMark ·) with
    | [] => some 0
    | _ :: rest => readExponent? rest
  return .ofDecimal negative (ofDigits 10 digits) (exponent - places)

end CommandPalette.Number
