/-! # Dates and moments

* `Date.ofFields`: a calendar date, or what is wrong with the three numbers.
* `Moment.ofFields`: a date with a time of day and possibly an offset from universal time.
* `Moment.instant?`: the microseconds since the first day, in universal time; two moments with
  offsets are the same if their instants are. -/

namespace Typestate

/-- Why numbers do not make a date or moment. -/
inductive CalendarFault where
  | year (year : Nat)
  | month
  | day
  | hour
  | minute
  | second
  | offset (minutes : Int)
deriving DecidableEq

/-- A day of the calendar. -/
structure Date where
  year : Nat
  month : Nat
  day : Nat
deriving DecidableEq

/-- A time on a day; `offset` counts the minutes that local time is ahead of universal time. -/
structure Moment where
  date : Date
  hour : Nat
  minute : Nat
  second : Nat
  microsecond : Nat
  offset : Option Int
deriving DecidableEq

/-- The year has a 29 February. -/
def isLeapYear (year : Nat) : Bool :=
  year % 4 == 0 && (year % 100 != 0 || year % 400 == 0)

/-- Days of a month. -/
def daysInMonth (year month : Nat) : Nat :=
  if month = 2 then (if isLeapYear year then 29 else 28)
  else if month = 4 ∨ month = 6 ∨ month = 9 ∨ month = 11 then 30
  else 31

namespace Date

/-- The date with the given numbers; year, month and day are checked in this order. -/
def ofFields (year month day : Nat) : Except CalendarFault Date :=
  if year < 1 ∨ 9999 < year then .error (.year year)
  else if month < 1 ∨ 12 < month then .error .month
  else if day < 1 ∨ daysInMonth year month < day then .error .day
  else .ok ⟨year, month, day⟩

/-- **A date exists exactly for numbers in range.** -/
theorem ofFields_eq_ok_iff {year month day : Nat} {d : Date} :
    ofFields year month day = .ok d ↔
      (1 ≤ year ∧ year ≤ 9999) ∧ (1 ≤ month ∧ month ≤ 12) ∧
        (1 ≤ day ∧ day ≤ daysInMonth year month) ∧ d = ⟨year, month, day⟩ := by
  unfold ofFields
  split
  · simp; omega
  split
  · simp; omega
  split
  · simp; omega
  · constructor
    · intro h
      cases h
      refine ⟨?_, ?_, ?_, rfl⟩ <;> omega
    · rintro ⟨-, -, -, rfl⟩
      rfl

/-- Days before the first of January of a year. -/
def daysBeforeYear (year : Nat) : Nat :=
  let y := year - 1
  y * 365 + y / 4 - y / 100 + y / 400

/-- Days of a year before a month. -/
def daysBeforeMonth (year : Nat) : Nat → Nat
  | 0 => 0
  | 1 => 0
  | month + 2 => daysBeforeMonth year (month + 1) + daysInMonth year (month + 1)

/-- Number of the day, the first day of year 1 being number 1. -/
def dayNumber (d : Date) : Nat :=
  daysBeforeYear d.year + daysBeforeMonth d.year d.month + d.day

end Date

namespace Moment

/-- The time on a date; hour, minute and second are checked in this order. -/
def ofFields (date : Date) (hour minute second microsecond : Nat) (offset : Option Int) :
    Except CalendarFault Moment :=
  if 23 < hour then .error .hour
  else if 59 < minute then .error .minute
  else if 59 < second then .error .second
  else .ok ⟨date, hour, minute, second, microsecond, offset⟩

/-- An offset of less than a day, in minutes. -/
def checkOffset (minutes : Int) : Except CalendarFault Int :=
  if minutes.natAbs < 24 * 60 then .ok minutes else .error (.offset minutes)

/-- Microseconds of local time since the start of day number 0. -/
def localMicroseconds (m : Moment) : Int :=
  ((((m.date.dayNumber * 24 + m.hour) * 60 + m.minute) * 60 + m.second) * 1000000 + m.microsecond
    : Nat)

/-- The instant of a moment with an offset. -/
def instant? (m : Moment) : Option Int :=
  m.offset.map fun minutes => m.localMicroseconds - minutes * 60000000

/-- Moments with offsets are compared by instant, those without by their fields. -/
def sameAs (a b : Moment) : Bool :=
  match a.instant?, b.instant? with
  | some i, some j => i == j
  | none, none => a == b
  | _, _ => false

end Moment

namespace CalendarFault

/-- A span of minutes, as whole days and the seconds that remain. -/
def spanText (minutes : Int) : String :=
  let days := minutes.fdiv (24 * 60)
  let seconds := minutes.fmod (24 * 60) * 60
  let parts := (if days = 0 then [] else ["days=" ++ toString days]) ++
    (if seconds = 0 then [] else ["seconds=" ++ toString seconds])
  "datetime.timedelta(" ++ (if parts.isEmpty then "0" else String.intercalate ", " parts) ++ ")"

/-- What is said about the numbers. -/
def message : CalendarFault → String
  | .year y => "year " ++ toString y ++ " is out of range"
  | .month => "month must be in 1..12"
  | .day => "day is out of range for month"
  | .hour => "hour must be in 0..23"
  | .minute => "minute must be in 0..59"
  | .second => "second must be in 0..59"
  | .offset minutes =>
    "offset must be a timedelta strictly between -timedelta(hours=24) and " ++
      "timedelta(hours=24), not " ++ spanText minutes ++ "."

end CalendarFault
end Typestate
