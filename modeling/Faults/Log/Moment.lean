/-!
# Moments

A moment is a date of the calendar with a time of the day, as a clock shows them.  Where
the clock hangs decides how far it is ahead of universal time: a `LocalTime` is a moment
with this distance.

The first day of the year zero is day zero (`dayNumber`), a Saturday, and the rest
of the calendar follows from the number of the day: the weekday, and the two ways
of numbering weeks.  The weeks of a year either begin at its first Sunday or Monday,
with a week zero before it; or a week is counted in the year in which most of its
days lie, so that the first week is the one with the fourth of January, and the
first days of January may belong to the year before (`weekYear`).
-/

namespace Faults

/-- A moment of the calendar. -/
structure Moment where
  year : Nat
  /-- The month, from 1. -/
  month : Nat
  /-- The day of the month, from 1. -/
  day : Nat
  /-- The hour, from 0. -/
  hour : Nat
  minute : Nat
  second : Nat
  /-- The nanosecond within the second. -/
  nanosecond : Nat
  deriving DecidableEq, Repr

namespace Moment

def isLeap (year : Nat) : Bool :=
  year % 4 = 0 ∧ (year % 100 ≠ 0 ∨ year % 400 = 0)

def daysOfMonth (year month : Nat) : Nat :=
  if month = 2 then (if isLeap year then 29 else 28)
  else if month = 4 ∨ month = 6 ∨ month = 9 ∨ month = 11 then 30
  else 31

/-- The number of the first day of a year. -/
def daysBefore (year : Nat) : Nat :=
  365 * year + (year + 3) / 4 - (year + 99) / 100 + (year + 399) / 400

/-- The weekday of a day, counted from Sunday. -/
def sinceSunday (dayNumber : Nat) : Nat :=
  (dayNumber + 6) % 7

/-- The weekday of a day, counted from Monday. -/
def sinceMonday (dayNumber : Nat) : Nat :=
  (dayNumber + 5) % 7

/-- The number of the Monday of the week in which the fourth of January lies. -/
def firstMonday (year : Nat) : Nat :=
  let fourth := daysBefore year + 3
  fourth - sinceMonday fourth

variable (m : Moment)

def dayOfYear : Nat :=
  (List.range (m.month - 1)).foldl (fun days i => days + daysOfMonth m.year (i + 1)) m.day

def dayNumber : Nat :=
  daysBefore m.year + m.dayOfYear - 1

def weekday : Nat :=
  sinceSunday m.dayNumber

/-- The week of the year, where weeks begin on Sundays. -/
def weekFromSunday : Nat :=
  (m.dayOfYear + 6 - sinceSunday m.dayNumber) / 7

/-- The week of the year, where weeks begin on Mondays. -/
def weekFromMonday : Nat :=
  (m.dayOfYear + 6 - sinceMonday m.dayNumber) / 7

/-- The year in which most days of the week lie. -/
def weekYear : Nat :=
  if firstMonday (m.year + 1) ≤ m.dayNumber then m.year + 1
  else if firstMonday m.year ≤ m.dayNumber then m.year
  else m.year - 1

/-- The week of that year, from 1. -/
def week : Nat :=
  (m.dayNumber - firstMonday m.weekYear) / 7 + 1

def quarter : Nat :=
  (m.month + 2) / 3

/-- The hour on a dial of twelve. -/
def dialHour : Nat :=
  if m.hour % 12 = 0 then 12 else m.hour % 12

/-- The seconds since the beginning of 1970 on the same clock. -/
def secondsSinceEpoch : Int :=
  let days : Int := m.dayNumber - daysBefore 1970
  ((days * 24 + m.hour) * 60 + m.minute) * 60 + m.second

end Moment

/-- A moment that a clock shows somewhere. -/
structure LocalTime extends Moment where
  /-- How many seconds the clock is ahead of universal time. -/
  offset : Int
  deriving DecidableEq, Repr

/-- A moment in universal time. -/
instance : Coe Moment LocalTime where
  coe m := ⟨m, 0⟩

end Faults
