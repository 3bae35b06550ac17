import CommandPalette.Calendar
import CommandPalette.Value.Basic
import CommandPalette.Yaml.Cursor

/-!
# Dates in documents

A plain scalar may have the form of a date, with or without a time of day.

* `Moment`, `moment?`: the dates and their form.
* `Moment.value`: the value of a date, if the calendar has it.
-/

namespace CommandPalette.Yaml

/-! ## The form of a date -/

/-- A number of digits between the given counts, and what follows it. -/
def digits? (least most : Nat) (s : List Char) : Option (Nat × List Char) :=
  let digits := (s.take most).takeWhile Char.isDigit
  if digits.length < least then none
  else some (decimalNumber digits, s.drop digits.length)

/-- What follows a character. -/
def after? (c : Char) : List Char → Option (List Char)
  | d :: rest => if c = d then some rest else none
  | [] => none

/-- A zone, in minutes east of Greenwich. -/
inductive Zone where
  | none
  | greenwich
  | offset (minutes : Int)
  deriving DecidableEq, Repr, Inhabited

/-- A date, and a time of day if there is one. -/
structure Moment where
  year : Nat
  month : Nat
  day : Nat
  /-- Hour, minute, second and microsecond. -/
  time : Option (Nat × Nat × Nat × Nat) := none
  zone : Zone := .none
  deriving DecidableEq, Repr, Inhabited

/-- The zone after a time. -/
def zone? (s : List Char) : Option Zone :=
  match s.dropWhile isSpace with
  | [] => if s.isEmpty then some .none else none
  | ['Z'] => some .greenwich
  | sign :: rest => do
    if !among "+-" sign then none
    let (hours, rest) ← digits? 1 2 rest
    let minutes ← if rest.isEmpty then some 0 else do
      let (minutes, rest) ← digits? 2 2 (← after? ':' rest)
      if rest.isEmpty then some minutes else none
    let offset : Int := hours * 60 + minutes
    return .offset (if sign = '-' then -offset else offset)

/-- The time after a date. -/
def timeOf? (s : List Char) : Option ((Nat × Nat × Nat × Nat) × Zone) := do
  let rest ← match s with
    | 'T' :: rest => some rest
    | 't' :: rest => some rest
    | c :: rest => if isSpace c then some (rest.dropWhile isSpace) else none
    | [] => none
  let (hour, rest) ← digits? 1 2 rest
  let (minute, rest) ← digits? 2 2 (← after? ':' rest)
  let (second, rest) ← digits? 2 2 (← after? ':' rest)
  let (fraction, rest) := match rest with
    | '.' :: rest => (rest.takeWhile Char.isDigit, rest.dropWhile Char.isDigit)
    | rest => ([], rest)
  let places := fraction.take 6
  let micro := decimalNumber places * Number.tenTo (6 - places.length)
  return ((hour, minute, second, micro), ← zone? rest)

/-- The date, or the date and time, that a scalar has the form of. -/
def moment? (s : List Char) : Option Moment := do
  let (year, rest) ← digits? 4 4 s
  let (month, monthRest) ← digits? 1 2 (← after? '-' rest)
  let (day, dayRest) ← digits? 1 2 (← after? '-' monthRest)
  if dayRest.isEmpty then
    if s.length = 10 then some { year, month, day } else none
  else
    let (time, zone) ← timeOf? dayRest
    return { year, month, day, time := some time, zone }

/-! ## The value of a date -/

namespace Zone

/-- A length of time in minutes, by its days and seconds. -/
def lengthText (minutes : Int) : String :=
  let days := Int.fdiv minutes 1440
  let seconds := (minutes - days * 1440) * 60
  let parts := (if days = 0 then [] else [s!"days={days}"]) ++
    (if seconds = 0 then [] else [s!"seconds={seconds}"])
  "datetime.timedelta(" ++ (if parts.isEmpty then "0" else ", ".intercalate parts) ++ ")"

/-- A zone as it is written after a time. -/
def plain : Zone → String
  | none => ""
  | greenwich => "+00:00"
  | offset minutes =>
    let size := minutes.natAbs
    let sign := if minutes < 0 then "-" else "+"
    sign ++ Calendar.padded 2 (size / 60) ++ ":" ++ Calendar.padded 2 (size % 60)

/-- A zone in full. -/
def quoted : Zone → Option String
  | none => Option.none
  | greenwich => some "datetime.timezone.utc"
  | offset 0 => some "datetime.timezone.utc"
  | offset minutes => some s!"datetime.timezone({lengthText minutes})"

/-- A zone is less than a day away from Greenwich. -/
def check : Zone → Except Fault Unit
  | offset minutes =>
    if minutes.natAbs < 1440 then .ok ()
    else .error <| .value <| .foreign "ValueError" <|
      "offset must be a timedelta strictly between -timedelta(hours=24) and timedelta(hours=24), " ++
        s!"not {lengthText minutes}."
  | _ => .ok ()

end Zone

namespace Moment

/-- How many days a month has. -/
def monthLength (year month : Nat) : Nat :=
  if month = 2 then
    if year % 4 = 0 && (year % 100 ≠ 0 || year % 400 = 0) then 29 else 28
  else if [4, 6, 9, 11].contains month then 30 else 31

/-- A part of a date that is not in its range. -/
def outOfRange (words : String) : Except Fault Unit := .error (.value (.foreign "ValueError" words))

/-- Whether the calendar has a date. -/
def checkDate (m : Moment) : Except Fault Unit :=
  if m.year = 0 then outOfRange "year 0 is out of range"
  else if m.month = 0 || 12 < m.month then outOfRange "month must be in 1..12"
  else if m.day = 0 || monthLength m.year m.month < m.day then
    outOfRange "day is out of range for month"
  else .ok ()

/-- Whether the clock has a time. -/
def checkTime (hour minute second : Nat) : Except Fault Unit :=
  if 24 ≤ hour then outOfRange "hour must be in 0..23"
  else if 60 ≤ minute then outOfRange "minute must be in 0..59"
  else if 60 ≤ second then outOfRange "second must be in 0..59"
  else .ok ()

/-- A date as it is written. -/
def dateText (m : Moment) : String :=
  Calendar.padded 4 m.year ++ "-" ++ Calendar.padded 2 m.month ++ "-" ++ Calendar.padded 2 m.day

/-- The value of a date. -/
def value (m : Moment) : Except Fault Value := do
  match m.time with
  | none =>
    m.checkDate
    return .foreign "date" m.dateText s!"datetime.date({m.year}, {m.month}, {m.day})"
  | some (hour, minute, second, micro) =>
    m.zone.check
    m.checkDate
    checkTime hour minute second
    let clock := ":".intercalate ([hour, minute, second].map (Calendar.padded 2))
    let fraction := if micro = 0 then "" else "." ++ Calendar.padded 6 micro
    let small := if micro ≠ 0 then [second, micro] else if second ≠ 0 then [second] else []
    let parts := ([m.year, m.month, m.day, hour, minute] ++ small).map toString ++
      (m.zone.quoted.map ("tzinfo=" ++ ·)).toList
    return .foreign "datetime" (m.dateText ++ " " ++ clock ++ fraction ++ m.zone.plain)
      ("datetime.datetime(" ++ ", ".intercalate parts ++ ")")

end Moment

end CommandPalette.Yaml
