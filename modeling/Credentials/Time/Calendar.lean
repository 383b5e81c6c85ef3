import Credentials.Text.Decimal

/-!
# The calendar

Days are numbered from 1 January 1970 and named in the proleptic Gregorian calendar, which extends
the leap-year rule to all years, negative ones included.

* `Date.ofDay` — the date of a day number.
* `Date.day` — the day number of a date, by the leap-year rule and the lengths of the months.
* `Date.text` — the date as `YYYY-MM-DD`; a year outside 0..9999 carries its sign.
-/

namespace Credentials

/-- A date of the proleptic Gregorian calendar. -/
structure Date where
  /-- The year; year 0 comes before year 1. -/
  year : Int
  /-- The month, from 1. -/
  month : Nat
  /-- The day of the month, from 1. -/
  dayOfMonth : Nat
  deriving DecidableEq, Repr

namespace Date

/-! ## From dates to days -/

/-- A leap year. -/
def isLeap (year : Int) : Bool := year % 4 = 0 && (year % 100 != 0 || year % 400 = 0)

/-- How many days the month has. -/
def monthLength (year : Int) (month : Nat) : Nat :=
  if month = 2 then (if isLeap year then 29 else 28)
  else if month = 4 || month = 6 || month = 9 || month = 11 then 30
  else 31

/-- How many days of the year come before the month. -/
def daysBeforeMonth (year : Int) : Nat → Nat
  | 0 => 0
  | 1 => 0
  | month + 2 => daysBeforeMonth year (month + 1) + monthLength year (month + 1)

/-- How many days lie between the first of January of year 1 and that of the given year. -/
def daysBeforeYear (year : Int) : Int :=
  let y := year - 1
  365 * y + y / 4 - y / 100 + y / 400

/-- The number of the day: 1 January 1970 is day 0. -/
def day (d : Date) : Int :=
  daysBeforeYear d.year - daysBeforeYear 1970 + daysBeforeMonth d.year d.month + d.dayOfMonth - 1

/-! ## From days to dates

The date is found in years that begin in March, so that a leap day is the last day of its year. A
cycle of 400 years has 146097 days; within it the year follows from the day by division once the
leap days are taken out, and the month from the day of the year. -/

/-- The year of a cycle, counted from March, that this day of the cycle falls in. -/
def yearOfCycle (d : Nat) : Nat := (d - d / 1460 + d / 36524 - d / 146096) / 365

/-- The date of a day number. -/
def ofDay (n : Int) : Date :=
  let z := n + 719468
  let cycle := z / 146097
  let d := (z % 146097).toNat
  let y := yearOfCycle d
  let dayOfYear := d - (365 * y + y / 4 - y / 100)
  let m := (5 * dayOfYear + 2) / 153
  let month := if m < 10 then m + 3 else m - 9
  { year := y + cycle * 400 + (if month ≤ 2 then 1 else 0)
    month := month
    dayOfMonth := dayOfYear - (153 * m + 2) / 5 + 1 }

/-! ## Text -/

/-- The year in four digits, with its sign if it is outside 0..9999. -/
def yearText (year : Int) : List Char :=
  if year < 0 then '-' :: Decimal.padded 4 year.natAbs
  else if 9999 < year then '+' :: Decimal.padded 4 year.natAbs
  else Decimal.padded 4 year.natAbs

/-- The date as `YYYY-MM-DD`. -/
def text (d : Date) : List Char :=
  yearText d.year ++ '-' :: Decimal.padded 2 d.month ++ '-' :: Decimal.padded 2 d.dayOfMonth

end Date

end Credentials
