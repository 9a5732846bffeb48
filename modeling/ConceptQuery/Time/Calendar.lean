/-!
# The calendar

Days of the Gregorian calendar are counted from the first day of the year one, which is day zero.

* `Time.Date` — a year, a month and a day;
* `Time.Date.dayNumber` — the number of a day;
* `Time.dateOfDay` — the date of a day number;
* `Time.weekDay` — the day of the week, Monday being zero;
* `Time.dayOfWeek?` — the day number of a year, a week and a day of the week.
-/

namespace ConceptQuery.Time

/-- A year, a month and a day. -/
structure Date where
  year : Int
  month : Int
  day : Int
deriving Repr, DecidableEq

/-- The last year of the calendar. -/
def maxYear : Int := 9999

/-- The number of days of the calendar. -/
def dayCount : Int := 3652059

/-- Whether a year has a leap day. -/
def isLeap (year : Int) : Bool :=
  year % 4 = 0 && (year % 100 ≠ 0 || year % 400 = 0)

/-- The lengths of the months of a year. -/
def monthLengths (leap : Bool) : List Int :=
  [31, if leap then 29 else 28, 31, 30, 31, 30, 31, 31, 30, 31, 30, 31]

/-- The length of a month. -/
def monthLength (year month : Int) : Int :=
  ((monthLengths (isLeap year))[(month - 1).toNat]?).getD 0

/-- The number of days before a year. -/
def daysBeforeYear (year : Int) : Int :=
  let y := year - 1
  365 * y + y / 4 - y / 100 + y / 400

/-- The number of days of a year before a month. -/
def daysBeforeMonth (year month : Int) : Int :=
  ((monthLengths (isLeap year)).take (month - 1).toNat).foldl (· + ·) 0

/-- The number of a day. -/
def Date.dayNumber (d : Date) : Int :=
  daysBeforeYear d.year + daysBeforeMonth d.year d.month + (d.day - 1)

/-- The year of a day number and the number of the day in the year, from periods of four hundred,
one hundred, four and one years. -/
def yearOfDay (n : Int) : Int × Int :=
  let a := n / 146097
  let n := n % 146097
  let b := min (n / 36524) 3
  let n := n - 36524 * b
  let c := n / 1461
  let n := n % 1461
  let d := min (n / 365) 3
  (400 * a + 100 * b + 4 * c + d + 1, n - 365 * d)

/-- The month and the day of the month of a day of a year, given the lengths of the months from
`month` on. -/
def monthOfDay (month : Int) : List Int → Int → Int × Int
  | [], n => (month, n + 1)
  | length :: rest, n =>
    if n < length then (month, n + 1) else monthOfDay (month + 1) rest (n - length)

/-- The date of a day number. -/
def dateOfDay (n : Int) : Date :=
  let (year, rest) := yearOfDay n
  let (month, day) := monthOfDay 1 (monthLengths (isLeap year)) rest
  ⟨year, month, day⟩

/-- The day of the week of a day number, Monday being zero. -/
def weekDay (n : Int) : Int := n % 7

/-- The day number of the Monday of the first week of a year, which is the week of the first
Thursday. -/
def firstMonday (year : Int) : Int :=
  let first := daysBeforeYear year
  let monday := first - weekDay first
  if 3 < weekDay first then monday + 7 else monday

/-- The number of weeks of a year: fifty-three if it begins on a Thursday, or is a leap year that
begins on a Wednesday. -/
def weekCount (year : Int) : Int :=
  let first := weekDay (daysBeforeYear year)
  if first = 3 || (first = 2 && isLeap year) then 53 else 52

/-- The day number of a year, a week and a day of the week, Monday being one. -/
def dayOfWeek? (year week day : Int) : Option Int :=
  if 1 ≤ week && week ≤ weekCount year && 1 ≤ day && day ≤ 7 then
    some (firstMonday year + (week - 1) * 7 + (day - 1))
  else none

/-- The number of microseconds of a day. -/
def dayMicros : Int := 86400000000

end ConceptQuery.Time
