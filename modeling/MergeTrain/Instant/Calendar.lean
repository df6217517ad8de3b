/-!
# The calendar

Dates of the proleptic Gregorian calendar and the number of days since the first day of year 1.
Years may be zero or negative.

## Main definitions

* `Date`, `Date.isValid` — a year, a month from 1 and a day from 1.
* `Date.toDays`, `Date.ofDays` — dates and day numbers.
-/

namespace MergeTrain.Calendar

/-- A leap year. -/
def isLeap (year : Int) : Bool :=
  year % 4 == 0 && (year % 100 != 0 || year % 400 == 0)

/-- The number of days in a month, given whether its year is a leap year. -/
def monthLength (leap : Bool) (month : Nat) : Nat :=
  if month == 2 then if leap then 29 else 28
  else if month == 4 || month == 6 || month == 9 || month == 11 then 30
  else 31

/-- The day number of the first day of a year. -/
def yearStart (year : Int) : Int :=
  let past := year - 1
  365 * past + past / 4 - past / 100 + past / 400

/-- The year that a day number falls in: an estimate from the mean length of a year, which is off
by one at most. -/
def yearOfDay (n : Int) : Int :=
  let estimate := 400 * n / 146097 + 1
  if n < yearStart estimate then estimate - 1
  else if yearStart (estimate + 1) ≤ n then estimate + 1
  else estimate

/-- The month and the day of the month, given the months to go through and the days left. -/
def monthOfDay (leap : Bool) : List Nat → Nat → Nat × Nat
  | [], left => (12, left + 1)
  | month :: later, left =>
    if left < monthLength leap month then (month, left + 1)
    else monthOfDay leap later (left - monthLength leap month)

/-- The months of a year, in order. -/
def months : List Nat :=
  [1, 2, 3, 4, 5, 6, 7, 8, 9, 10, 11, 12]

/-- The number of days in a year before a month. -/
def daysBefore (leap : Bool) (month : Nat) : Nat :=
  ((months.takeWhile (· < month)).map (monthLength leap)).foldl (· + ·) 0

/-- A day of the calendar. -/
structure Date where
  year : Int
  month : Nat
  day : Nat
  deriving DecidableEq, Repr

namespace Date

/-- Whether the month and the day exist. -/
def isValid (d : Date) : Bool :=
  1 ≤ d.month && d.month ≤ 12 && 1 ≤ d.day && d.day ≤ monthLength (isLeap d.year) d.month

/-- The day number of a date. -/
def toDays (d : Date) : Int :=
  yearStart d.year + daysBefore (isLeap d.year) d.month + d.day - 1

/-- The date of a day number. -/
def ofDays (n : Int) : Date :=
  let year := yearOfDay n
  let (month, day) := monthOfDay (isLeap year) months (n - yearStart year).toNat
  ⟨year, month, day⟩

end Date

/-- The day number of 1970-01-01. -/
def epochDay : Int :=
  719162

end MergeTrain.Calendar
