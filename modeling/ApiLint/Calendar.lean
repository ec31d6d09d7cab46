/-!
# Dates and times of day

Proleptic Gregorian dates of the years 1 to 9999, times of day to the microsecond, and an optional offset
from universal time.  `DateTime.check` and `Date.check` name the first part that is out of range.
-/

namespace ApiLint

/-- A date that may still be out of range. -/
structure Date where
  year : Nat
  month : Nat
  day : Nat
deriving DecidableEq

/-- Why a date, a time of day or an offset does not exist. -/
inductive CalendarError where
  | year (year : Nat)
  | month
  | day
  | hour
  | minute
  | second
  /-- An offset of a day or more, in minutes. -/
  | offset (minutes : Int)
deriving DecidableEq

namespace Date

/-- Every fourth year, but of the centuries only every fourth. -/
def isLeapYear (year : Nat) : Bool :=
  year % 4 == 0 && (year % 100 != 0 || year % 400 == 0)

/-- The number of days of a month. -/
def daysInMonth (year month : Nat) : Nat :=
  if month = 2 then (if isLeapYear year then 29 else 28)
  else if month = 4 ∨ month = 6 ∨ month = 9 ∨ month = 11 then 30
  else 31

/-- Years 1 to 9999, months 1 to 12, and the days that the month has. -/
def check (d : Date) : Except CalendarError Date :=
  if d.year = 0 then .error (.year d.year)
  else if d.month = 0 ∨ 12 < d.month then .error .month
  else if d.day = 0 ∨ daysInMonth d.year d.month < d.day then .error .day
  else .ok d

/-- Days before the first of January of a year, counted from the year 1. -/
def daysBeforeYear (year : Nat) : Nat :=
  let y := year - 1
  y * 365 + y / 4 - y / 100 + y / 400

/-- Days before the first of a month within its year. -/
def daysBeforeMonth (year month : Nat) : Nat :=
  ((List.range month).drop 1).foldl (fun days m => days + daysInMonth year m) 0

/-- Days since the first of January of the year 1. -/
def ordinal (d : Date) : Nat :=
  daysBeforeYear d.year + daysBeforeMonth d.year d.month + d.day

/-- Fill up with zeros on the left. -/
def padded (width n : Nat) : String :=
  let digits := Nat.toDigits 10 n
  String.ofList (List.replicate (width - digits.length) '0' ++ digits)

/-- The text `YYYY-MM-DD`. -/
def text (d : Date) : String :=
  padded 4 d.year ++ "-" ++ padded 2 d.month ++ "-" ++ padded 2 d.day

end Date

/-- A date with a time of day and, if known, the offset from universal time in minutes. -/
structure DateTime where
  date : Date
  hour : Nat
  minute : Nat
  second : Nat
  microsecond : Nat
  offset : Option Int
deriving DecidableEq

namespace DateTime

/-- The offset first, which is less than a day, then the date, hour, minute and second. -/
def check (t : DateTime) : Except CalendarError DateTime :=
  match t.offset with
  | some minutes =>
    if 1440 ≤ minutes.natAbs then .error (.offset minutes) else checkParts
  | none => checkParts
where
  /-- The parts other than the offset. -/
  checkParts := match t.date.check with
  | .error e => .error e
  | .ok _ =>
    if 23 < t.hour then .error .hour
    else if 59 < t.minute then .error .minute
    else if 59 < t.second then .error .second
    else .ok t

/-- Microseconds since the start of the year 1, in universal time when the offset is known. -/
def instant (t : DateTime) : Int :=
  let seconds : Int := ((Int.ofNat t.date.ordinal * 24 + Int.ofNat t.hour) * 60 + Int.ofNat t.minute) * 60
    + Int.ofNat t.second - 60 * t.offset.getD 0
  seconds * 1000000 + Int.ofNat t.microsecond

/-- The same instant, both with an offset or both without. -/
def sameInstant (s t : DateTime) : Bool :=
  s.offset.isSome == t.offset.isSome && s.instant == t.instant

/-- The text of an offset, `+hh:mm` or `-hh:mm`. -/
def offsetText (minutes : Int) : String :=
  let sign := if minutes < 0 then "-" else "+"
  sign ++ Date.padded 2 (minutes.natAbs / 60) ++ ":" ++ Date.padded 2 (minutes.natAbs % 60)

/-- Date and time of day around a separator, microseconds only when there are any. -/
def text (separator : String) (t : DateTime) : String :=
  let fraction := if t.microsecond = 0 then "" else "." ++ Date.padded 6 t.microsecond
  let zone := match t.offset with
    | some minutes => offsetText minutes
    | none => ""
  t.date.text ++ separator ++ Date.padded 2 t.hour ++ ":" ++ Date.padded 2 t.minute ++ ":"
    ++ Date.padded 2 t.second ++ fraction ++ zone

end DateTime

/-! ## Wording -/

/-- An offset from universal time as a message shows it, given in minutes. -/
def offsetLiteral (minutes : Int) : String :=
  let days := minutes.fdiv 1440
  let seconds := (minutes.fmod 1440) * 60
  let parts := (if days = 0 then [] else ["days=" ++ toString days])
    ++ (if seconds = 0 then [] else ["seconds=" ++ toString seconds])
  "datetime.timedelta(" ++ (if parts.isEmpty then "0" else ", ".intercalate parts) ++ ")"

/-- The wording of what does not exist. -/
def CalendarError.message : CalendarError → String
  | .year y => "year " ++ toString y ++ " is out of range"
  | .month => "month must be in 1..12"
  | .day => "day is out of range for month"
  | .hour => "hour must be in 0..23"
  | .minute => "minute must be in 0..59"
  | .second => "second must be in 0..59"
  | .offset m =>
    "offset must be a timedelta strictly between -timedelta(hours=24) and timedelta(hours=24), not "
      ++ offsetLiteral m ++ "."

end ApiLint
