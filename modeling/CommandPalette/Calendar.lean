/-!
# Dates

Dates of the proleptic Gregorian calendar at Greenwich, from the microseconds since the start of
1970.

* `Calendar.Date`, `Calendar.ofDays`: the date of a day.
* `Calendar.Time`, `Calendar.ofMicroseconds`: the date and the time of day.
* `Calendar.Time.compact`, `Calendar.Time.iso`: two layouts.
-/

namespace CommandPalette.Calendar

/-- A day. -/
structure Date where
  year : Int
  month : Nat
  day : Nat
  deriving DecidableEq, Repr, Inhabited

/-- The date of a day, counted from the start of 1970.  Years are counted from March on, so the leap
day is the last of its year; 400 years have 146097 days. -/
def ofDays (days : Int) : Date :=
  let z := days + 719468
  let era := Int.fdiv z 146097
  let dayOfEra := (z - era * 146097).toNat
  let yearOfEra := (dayOfEra - dayOfEra / 1460 + dayOfEra / 36524 - dayOfEra / 146096) / 365
  let dayOfYear := dayOfEra - (365 * yearOfEra + yearOfEra / 4 - yearOfEra / 100)
  let monthFromMarch := (5 * dayOfYear + 2) / 153
  let day := dayOfYear - (153 * monthFromMarch + 2) / 5 + 1
  let month := if monthFromMarch < 10 then monthFromMarch + 3 else monthFromMarch - 9
  let year := era * 400 + yearOfEra + if month ≤ 2 then 1 else 0
  ⟨year, month, day⟩

/-- A date and a time of day. -/
structure Time where
  date : Date
  hour : Nat
  minute : Nat
  second : Nat
  microsecond : Nat
  deriving DecidableEq, Repr, Inhabited

/-- The date and time of a number of microseconds since the start of 1970. -/
def ofMicroseconds (n : Int) : Time :=
  let seconds := Int.fdiv n 1000000
  let days := Int.fdiv seconds 86400
  let second := (seconds - days * 86400).toNat
  { date := ofDays days
    hour := second / 3600
    minute := second / 60 % 60
    second := second % 60
    microsecond := (n - seconds * 1000000).toNat }

/-- A number with zeros in front. -/
def padded (width n : Nat) : String :=
  let digits := toString n
  "".pushn '0' (width - digits.length) ++ digits

/-- The time of day. -/
def Time.clock (t : Time) : String :=
  s!"{padded 2 t.hour}:{padded 2 t.minute}:{padded 2 t.second}"

/-- Month and day. -/
def Date.monthDay (d : Date) : String := s!"{padded 2 d.month}-{padded 2 d.day}"

/-- Date and time to the second. -/
def Time.compact (t : Time) : String :=
  s!"{t.date.year}-{t.date.monthDay} {t.clock}"

/-- Date and time as in ISO 8601; microseconds are left out where there are none. -/
def Time.iso (t : Time) : String :=
  let fraction := if t.microsecond = 0 then "" else "." ++ padded 6 t.microsecond
  s!"{padded 4 t.date.year.toNat}-{t.date.monthDay}T{t.clock}{fraction}"

end CommandPalette.Calendar
