import CommandPalette.Calendar
import CommandPalette.Fault
import CommandPalette.Number.Arithmetic

/-!
# When a record was written

A record says when it was written in seconds since the start of 1970.  The writer of the line may set
them to any value, so reading them can fail.

* `Instant.ofParts`: the value for seconds and microseconds.
* `Instant.seconds`, `Instant.microseconds`: what a value counts, to the second and more finely.
* `Instant.time`: the date and time of day, where the year can be counted.
* `Instant.stamp`: the same with microseconds, where the year has four digits.
-/

namespace CommandPalette.Log.Instant

open CommandPalette.Number

/-- The value for seconds and microseconds, which is a double; each of the two is rounded before they
are added. -/
def ofParts (seconds : Int) (microseconds : Int) : Value :=
  let fraction := match Binary64.ofInt microseconds with
    | .finite negative m e =>
      let (num, den) := Binary64.magnitude m e
      Binary64.ofRatio negative num (den * 1000000)
    | x => x
  .float ((Binary64.ofInt seconds).add fraction)

/-- The times that a clock can show: 63 bits of seconds on either side of 1970. -/
def clockBound : Int := twoTo 63

/-- Seconds that a clock can show. -/
def inRange (seconds : Int) : Except Fault Int :=
  if -clockBound ≤ seconds ∧ seconds < clockBound then .ok seconds
  else .error (.foreign "OverflowError" "timestamp out of range for platform time_t")

/-- What a value that is neither an integer nor a finite double counts as a time. -/
def refused (v : Value) : Except Fault Int :=
  .error <| match v with
  | .float .nan => .foreign "ValueError" "Invalid value NaN (not a number)"
  | .float _ => .foreign "OverflowError" "timestamp out of range for platform time_t"
  | v => .foreign "TypeError" s!"'{v.typeName}' object cannot be interpreted as an integer"

/-- The whole seconds that a value counts. -/
def seconds (v : Value) : Except Fault Int :=
  match v with
  | .int n => inRange n
  | .bool b => .ok (Value.ofBool b)
  | .float x => match x.floor? with
    | some n => inRange n
    | none => refused v
  | v => refused v

/-- The microseconds that a value counts.  Those beyond the whole seconds are rounded as a double
before they are rounded to an integer. -/
def microseconds (v : Value) : Except Fault Int :=
  match v with
  | .float (.finite negative m e) => do
    let (num, den) := Binary64.magnitude m e
    let whole := Binary64.signed negative (num / den)
    let part := Binary64.ofRatio negative (num % den * 1000000) den
    let n := whole * 1000000 + part.nearest?.getD 0
    let _ ← inRange (Int.fdiv n 1000000)
    return n
  | v => do return (← seconds v) * 1000000

/-- The date and time of day of a number of microseconds.  Years that do not fit in 32 bits cannot be
counted. -/
def date (n : Int) : Except Fault Calendar.Time :=
  let time := Calendar.ofMicroseconds n
  let year := time.date.year - 1900
  if -(twoTo 31 : Int) ≤ year ∧ year < twoTo 31 then .ok time
  else .error (.foreign "OSError" "[Errno 75] Value too large for defined data type")

/-- The date and time of day that a value counts. -/
def time (v : Value) : Except Fault Calendar.Time := do date ((← seconds v) * 1000000)

/-- Refuses a time whose year does not have one to four digits. -/
def checkYear (t : Calendar.Time) : Except Fault Unit :=
  if 1 ≤ t.date.year ∧ t.date.year ≤ 9999 then .ok ()
  else .error (.foreign "ValueError" s!"year {t.date.year} is out of range")

/-- The microseconds of a day. -/
def day : Int := 86400000000

/-- The date and time of day that a value counts, to the microsecond.  The year has to have one to
four digits, and so does the year of the day before. -/
def stamp (v : Value) : Except Fault Calendar.Time := do
  let n ← microseconds v
  let time ← date n
  checkYear time
  checkYear (← date (n - day))
  return time

end CommandPalette.Log.Instant
