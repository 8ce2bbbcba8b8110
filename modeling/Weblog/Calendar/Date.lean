/-!
# Dates

Dates of the Gregorian calendar, extended to all years; the year before year 1 is year 0.

* `Date.isValid`: the date exists and its year lies within the supported range.
* `Date.dayNumber`: the days from 1970-01-01 to a date.
* `Date.next`, `Date.previous`: the neighbouring dates.
* `Date.text`: a date as year, month and day.
-/

namespace Weblog.Calendar

/-- A date of the Gregorian calendar, which is extended to all years. -/
structure Date where
  year : Int
  month : Nat
  day : Nat
  deriving DecidableEq

def isLeapYear (year : Int) : Bool :=
  year % 4 == 0 && (year % 100 != 0 || year % 400 == 0)

/-- The days of the months of a year, from January on. -/
def monthLengths (year : Int) : List Nat :=
  [31, if isLeapYear year then 29 else 28, 31, 30, 31, 30, 31, 31, 30, 31, 30, 31]

/-- How many days a month has. -/
def daysInMonth (year : Int) (month : Nat) : Nat :=
  (monthLengths year).getD (month - 1) 0

/-- The days of a year before the first day of a month. -/
def daysBeforeMonth (year : Int) (month : Nat) : Nat :=
  ((monthLengths year).take (month - 1)).foldl (· + ·) 0

/-- The days from the first day of year 1 to the first day of a year. -/
def daysBeforeYear (year : Int) : Int :=
  let y := year - 1
  365 * y + y / 4 - y / 100 + y / 400

def firstYear : Int := -262143
def lastYear : Int := 262142

namespace Date

/-- The date exists and its year is supported. -/
def isValid (d : Date) : Bool :=
  firstYear ≤ d.year && d.year ≤ lastYear && 1 ≤ d.month && d.month ≤ 12 &&
    1 ≤ d.day && d.day ≤ daysInMonth d.year d.month

/-- The days from 1970-01-01 to the date. Year 1 begins 719162 days earlier. -/
def dayNumber (d : Date) : Int :=
  daysBeforeYear d.year + daysBeforeMonth d.year d.month + d.day - 1 - 719162

/-- The day after a date. -/
def next (d : Date) : Date :=
  if d.day < daysInMonth d.year d.month then { d with day := d.day + 1 }
  else if d.month < 12 then { d with month := d.month + 1, day := 1 }
  else ⟨d.year + 1, 1, 1⟩

/-- The day before a date. -/
def previous (d : Date) : Date :=
  if 1 < d.day then { d with day := d.day - 1 }
  else if 1 < d.month then
    { d with month := d.month - 1, day := daysInMonth d.year (d.month - 1) }
  else ⟨d.year - 1, 12, 31⟩

/-- The date a given number of days later, for one day in either direction. -/
def shift (d : Date) (days : Int) : Date :=
  if days < 0 then d.previous else if 0 < days then d.next else d

/-! ## Text -/

/-- A number with zeros in front of it up to the width. -/
def padded (width n : Nat) : List Char :=
  let digits := Nat.toDigits 10 n
  List.replicate (width - digits.length) '0' ++ digits

/-- A year: four digits, and a sign as well outside of 0 to 9999. -/
def yearText (year : Int) : List Char :=
  (if year < 0 then ['-'] else if 9999 < year then ['+'] else []) ++ padded 4 year.natAbs

/-- Year, month and day, with hyphens between them. -/
def text (d : Date) : String :=
  String.ofList (yearText d.year ++ '-' :: padded 2 d.month ++ '-' :: padded 2 d.day)

end Date

end Weblog.Calendar
