import SchemaIntents.Decimal.Numeral

/-!
Dates and times of the proleptic Gregorian calendar, with an optional offset from UTC.
-/
namespace SchemaIntents

/-- A day of the calendar. -/
structure Date where
  year : Nat
  month : Nat
  day : Nat
  deriving DecidableEq, Repr

/-- A day and a time of day; `offset` is the distance from UTC in minutes where one is known. -/
structure DateTime where
  date : Date
  hour : Nat
  minute : Nat
  second : Nat
  microsecond : Nat
  offset : Option Int
  deriving DecidableEq, Repr

/-- Why numbers name no day or time. -/
inductive CalendarError where
  | year (n : Nat)
  | month
  | day
  | hour
  | minute
  | second
  | offset (minutes : Int)
  deriving DecidableEq, Repr

namespace Date

/-- The length of a month. -/
def daysIn (year month : Nat) : Nat :=
  if month = 2 then
    if year % 4 = 0 ∧ (year % 100 ≠ 0 ∨ year % 400 = 0) then 29 else 28
  else if month = 4 ∨ month = 6 ∨ month = 9 ∨ month = 11 then 30
  else 31

/-- The day that three numbers name. -/
def of (year month day : Nat) : Except CalendarError Date :=
  if year = 0 ∨ 9999 < year then .error (.year year)
  else if month = 0 ∨ 12 < month then .error .month
  else if day = 0 ∨ daysIn year month < day then .error .day
  else .ok ⟨year, month, day⟩

/-- The length of a year. -/
def daysInYear (year : Nat) : Nat :=
  337 + daysIn year 2

/-- The day that lies some days after the first of a month; `more` is how many months may follow. -/
def fromMonth (year month days : Nat) : Nat → Date
  | 0 => ⟨year, month, days + 1⟩
  | more + 1 =>
    if days < daysIn year month then ⟨year, month, days + 1⟩
    else fromMonth year (month + 1) (days - daysIn year month) more

/-- The day that lies some days after the first of a year; `more` is how many years may follow. -/
def fromYear (year days : Nat) : Nat → Date
  | 0 => fromMonth year 1 days 11
  | more + 1 =>
    if days < daysInYear year then fromMonth year 1 days 11
    else fromYear (year + 1) (days - daysInYear year) more

/-- The day that lies some days after the first of January 1970. -/
def ofDayNumber (n : Nat) : Date :=
  fromYear 1970 n (n / 365)

/-- The number of days before a month of a year. -/
def daysBefore (year month : Nat) : Nat :=
  (List.range (month - 1)).foldl (fun n m => n + daysIn year (m + 1)) 0

/-- The number of a day, counted from the first day of year 1. -/
def number (d : Date) : Nat :=
  let years := d.year - 1
  years * 365 + years / 4 - years / 100 + years / 400 + daysBefore d.year d.month + d.day

/-- The date in the form `2024-01-02`. -/
def text (d : Date) : String :=
  padded 4 d.year ++ "-" ++ padded 2 d.month ++ "-" ++ padded 2 d.day

end Date

namespace DateTime

/-- The moment that numbers name; an offset is less than a day. -/
def of (date : Except CalendarError Date) (hour minute second microsecond : Nat)
    (offset : Option Int) : Except CalendarError DateTime := do
  let tooFar := match offset with
    | some m => decide (1440 ≤ m.natAbs)
    | none => false
  if tooFar then throw (.offset (offset.getD 0))
  let d ← date
  if 23 < hour then throw .hour
  if 59 < minute then throw .minute
  if 59 < second then throw .second
  return ⟨d, hour, minute, second, microsecond, offset⟩

/-- The moment in UTC that lies some microseconds after the start of 1970. -/
def ofMicroseconds (n : Nat) : DateTime :=
  let seconds := n / 1000000
  ⟨.ofDayNumber (seconds / 86400), seconds / 3600 % 24, seconds / 60 % 60,
    seconds % 60, n % 1000000, some 0⟩

/-- The microseconds from the start of the calendar to a moment, in UTC if the offset is known. -/
def instant (t : DateTime) : Int :=
  let minutes : Int := (t.date.number * 24 + t.hour) * 60 + t.minute - t.offset.getD 0
  (minutes * 60 + t.second) * 1000000 + t.microsecond

/-- Whether two moments are the same one. A moment with an offset differs from any without one. -/
def isSame (t u : DateTime) : Bool :=
  t.offset.isSome == u.offset.isSome && t.instant == u.instant

/-- The time of day, with a fraction only where it is not zero. -/
def clockText (t : DateTime) : String :=
  let base := padded 2 t.hour ++ ":" ++ padded 2 t.minute ++ ":" ++ padded 2 t.second
  if t.microsecond = 0 then base else base ++ "." ++ padded 6 t.microsecond

/-- An offset in the form `+05:30`. -/
def offsetText (minutes : Int) : String :=
  (if minutes < 0 then "-" else "+") ++ padded 2 (minutes.natAbs / 60) ++ ":" ++
    padded 2 (minutes.natAbs % 60)

/-- The moment with a blank between date and time. -/
def text (t : DateTime) : String :=
  t.date.text ++ " " ++ t.clockText ++ (t.offset.map offsetText).getD ""

/-- The moment in ISO form, an offset of nothing as `Z`. -/
def isoText (t : DateTime) : String :=
  let zone := match t.offset with
    | none => ""
    | some 0 => "Z"
    | some m => offsetText m
  t.date.text ++ "T" ++ t.clockText ++ zone

/-- The moment as log lines show it: milliseconds after a comma, and no offset. -/
def logText (t : DateTime) : String :=
  t.date.text ++ " " ++ padded 2 t.hour ++ ":" ++ padded 2 t.minute ++ ":" ++ padded 2 t.second ++
    "," ++ padded 3 (t.microsecond / 1000)

/-- The moment in ISO form with milliseconds cut off, for a moment in UTC. -/
def millisecondText (t : DateTime) : String :=
  t.date.text ++ "T" ++ padded 2 t.hour ++ ":" ++ padded 2 t.minute ++ ":" ++
    padded 2 t.second ++ "." ++ padded 3 (t.microsecond / 1000) ++ "Z"

end DateTime

/-- Why a moment is refused, in words. -/
def CalendarError.message : CalendarError → String
  | .year n => s!"year {n} is out of range"
  | .month => "month must be in 1..12"
  | .day => "day is out of range for month"
  | .hour => "hour must be in 0..23"
  | .minute => "minute must be in 0..59"
  | .second => "second must be in 0..59"
  | .offset m =>
    let days := Int.fdiv m 1440
    let seconds := (m - days * 1440) * 60
    let head := "offset must be a timedelta strictly between -timedelta(hours=24) and " ++
      "timedelta(hours=24), not datetime.timedelta("
    let dayPart := if days = 0 then "" else s!"days={days}"
    let secondPart := if seconds = 0 then "" else s!"seconds={seconds}"
    let comma := if days ≠ 0 ∧ seconds ≠ 0 then ", " else ""
    head ++ dayPart ++ comma ++ secondPart ++ ")."

end SchemaIntents
