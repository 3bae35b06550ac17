import CommandPalette.Number.Binary64

/-!
# Doubles with a fixed number of places

* `showFixed`: a double rounded to a number of places; a half, which is judged on the exact binary
  value, goes to the even neighbour.
-/

namespace CommandPalette.Number

/-- A natural number of thousandths (for three places) with its point. -/
def placePoint (places n : Nat) : String :=
  let digits := (toString n).toList
  let digits := List.replicate (places + 1 - digits.length) '0' ++ digits
  let (whole, fraction) := digits.splitAt (digits.length - places)
  String.ofList whole ++ if places = 0 then "" else "." ++ String.ofList fraction

/-- A double rounded to `places` places. -/
def showFixed (places : Nat) : Binary64 → String
  | .nan => "nan"
  | .infinite negative => if negative then "-inf" else "inf"
  | .finite negative m e =>
    let (num, den) := Binary64.magnitude m e
    (if negative then "-" else "") ++ placePoint places (roundDiv (num * tenTo places) den)

end CommandPalette.Number
