/-!
# Dates and times in decoded data

Dates follow the proleptic Gregorian calendar from year 1 to year 9999.  A moment
is a date with a time of day, and possibly an offset from universal time in
minutes, which must be less than a day either way.
-/

namespace ApiScaffold

/-- A calendar date. -/
structure CalendarDate where
  year : Nat
  month : Nat
  day : Nat
  deriving DecidableEq, Repr

/-- A time of day. -/
structure ClockTime where
  hour : Nat
  minute : Nat
  second : Nat
  microsecond : Nat
  deriving DecidableEq, Repr

/-- A date and a time of day, with the offset from universal time in minutes if it
is known. -/
structure Moment where
  date : CalendarDate
  time : ClockTime
  offset : Option Int
  deriving DecidableEq, Repr

/-- Why numbers do not make a date or a time. -/
inductive CalendarFault where
  | year (value : Nat)
  | month
  | day
  | hour
  | minute
  | second
  /-- The offset, in minutes, is a day or more. -/
  | offset (minutes : Int)
  deriving DecidableEq, Repr

namespace CalendarDate

/-- Whether a year has a 29th of February. -/
def isLeapYear (year : Nat) : Bool :=
  year % 4 = 0 && (year % 100 != 0 || year % 400 = 0)

/-- The number of days of a month. -/
def daysInMonth (year month : Nat) : Nat :=
  if month = 2 then if isLeapYear year then 29 else 28
  else if month = 4 ∨ month = 6 ∨ month = 9 ∨ month = 11 then 30
  else 31

/-- The date with these numbers. -/
def make (year month day : Nat) : Except CalendarFault CalendarDate :=
  if year < 1 ∨ 9999 < year then .error (.year year)
  else if month < 1 ∨ 12 < month then .error .month
  else if day < 1 ∨ daysInMonth year month < day then .error .day
  else .ok ⟨year, month, day⟩

/-- A date that could be made lies inside its month. -/
theorem day_le_of_make {year month day : Nat} {date : CalendarDate}
    (made : make year month day = .ok date) :
    1 ≤ date.day ∧ date.day ≤ daysInMonth date.year date.month := by
  unfold make at made
  split at made
  · cases made
  · split at made
    · cases made
    · split at made
      · cases made
      · cases made
        simp only
        omega

end CalendarDate

/-- A number with leading zeros up to a width. -/
def padNumber (width value : Nat) : String :=
  let digits := Nat.toDigits 10 value
  String.ofList (List.replicate (width - digits.length) '0' ++ digits)

/-- The ISO text of a date. -/
def CalendarDate.text (date : CalendarDate) : String :=
  padNumber 4 date.year ++ "-" ++ padNumber 2 date.month ++ "-" ++ padNumber 2 date.day

/-- The time of day with these numbers. -/
def ClockTime.make (hour minute second microsecond : Nat) : Except CalendarFault ClockTime :=
  if 23 < hour then .error .hour
  else if 59 < minute then .error .minute
  else if 59 < second then .error .second
  else .ok ⟨hour, minute, second, microsecond⟩

/-- The text of a time of day; fractions of a second are written if there are any. -/
def ClockTime.text (time : ClockTime) : String :=
  padNumber 2 time.hour ++ ":" ++ padNumber 2 time.minute ++ ":" ++ padNumber 2 time.second ++
    if time.microsecond = 0 then "" else "." ++ padNumber 6 time.microsecond

/-- The number of minutes in a day. -/
def minutesPerDay : Nat := 1440

/-- The moment with these parts. -/
def Moment.make (year month day hour minute second microsecond : Nat) (offset : Option Int) :
    Except CalendarFault Moment := do
  match offset with
  | some minutes =>
      if minutesPerDay ≤ minutes.natAbs then throw (.offset minutes)
  | none => pure ()
  let date ← CalendarDate.make year month day
  let time ← ClockTime.make hour minute second microsecond
  pure ⟨date, time, offset⟩

/-- The number of days from the first day of year 1 to a date. -/
def CalendarDate.dayNumber (date : CalendarDate) : Nat :=
  let years := date.year - 1
  let months := (List.range (date.month - 1)).foldl
    (fun days month => days + daysInMonth date.year (month + 1)) 0
  365 * years + years / 4 - years / 100 + years / 400 + months + (date.day - 1)

/-- The number of microseconds since midnight. -/
def ClockTime.microseconds (time : ClockTime) : Nat :=
  ((time.hour * 60 + time.minute) * 60 + time.second) * 1000000 + time.microsecond

/-- The number of microseconds from the start of year 1 to a moment, by its own clock. -/
def Moment.localTime (moment : Moment) : Nat :=
  moment.date.dayNumber * (minutesPerDay * 60000000) + moment.time.microseconds

/-- Whether two moments are the same instant.  A moment without an offset is never the
same as one with an offset. -/
def Moment.isSameInstant (first second : Moment) : Bool :=
  let instant (moment : Moment) (offset : Int) : Int := moment.localTime - offset * 60000000
  match first.offset, second.offset with
  | none, none => first == second
  | some left, some right => instant first left == instant second right
  | _, _ => false

/-- The text of an offset. -/
def offsetText (minutes : Int) : String :=
  (if minutes < 0 then "-" else "+") ++ padNumber 2 (minutes.natAbs / 60) ++ ":" ++
    padNumber 2 (minutes.natAbs % 60)

/-- The text of a moment. -/
def Moment.text (moment : Moment) : String :=
  moment.date.text ++ " " ++ moment.time.text ++ (moment.offset.map offsetText).getD ""

/-- A length of time in minutes, taken apart into days and seconds. -/
def durationText (minutes : Int) : String :=
  let days := minutes.fdiv minutesPerDay
  let seconds := minutes.fmod minutesPerDay * 60
  let parts :=
    (if days = 0 then [] else ["days=" ++ toString days]) ++
      (if seconds = 0 then [] else ["seconds=" ++ toString seconds])
  "datetime.timedelta(" ++ (if parts.isEmpty then "0" else ", ".intercalate parts) ++ ")"

/-- The message of a fault. -/
def CalendarFault.message : CalendarFault → String
  | .year value => "year " ++ toString value ++ " is out of range"
  | .month => "month must be in 1..12"
  | .day => "day is out of range for month"
  | .hour => "hour must be in 0..23"
  | .minute => "minute must be in 0..59"
  | .second => "second must be in 0..59"
  | .offset minutes =>
      "offset must be a timedelta strictly between -timedelta(hours=24) and " ++
        "timedelta(hours=24), not " ++ durationText minutes ++ "."

/-- A date written as the expression that makes it. -/
def CalendarDate.expression (date : CalendarDate) : String :=
  "datetime.date(" ++ ", ".intercalate ([date.year, date.month, date.day].map toString) ++ ")"

/-- A moment written as the expression that makes it. -/
def Moment.expression (moment : Moment) : String :=
  let time := moment.time
  let fraction := if time.microsecond = 0 then [] else [time.microsecond]
  let seconds := if time.second = 0 ∧ fraction = [] then [] else time.second :: fraction
  let numbers :=
    [moment.date.year, moment.date.month, moment.date.day, time.hour, time.minute] ++ seconds
  let zone :=
    match moment.offset with
    | none => []
    | some minutes =>
        ["tzinfo=" ++
          if minutes = 0 then "datetime.timezone.utc"
          else "datetime.timezone(" ++ durationText minutes ++ ")"]
  "datetime.datetime(" ++ ", ".intercalate (numbers.map toString ++ zone) ++ ")"

end ApiScaffold
