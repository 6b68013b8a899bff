/- The proleptic Gregorian calendar: dates and the number of days that separate them from
   1 January 1970. Years before year 1 count on through zero to negative numbers. -/
namespace SeriesCell

structure Date where
  year : Int
  month : Nat
  day : Nat
deriving DecidableEq

def isLeapYear (year : Int) : Bool :=
  year % 4 == 0 && (year % 100 != 0 || year % 400 == 0)

def daysBeforeYear (year : Int) : Int :=
  365 * (year - 1) + (year - 1) / 4 - (year - 1) / 100 + (year - 1) / 400

def monthLengths (leap : Bool) : List Nat :=
  [31, if leap then 29 else 28, 31, 30, 31, 30, 31, 31, 30, 31, 30, 31]

def totalDays (lengths : List Nat) : Nat := lengths.foldr (· + ·) 0

def monthAndDay : List Nat → Nat → Nat → Nat × Nat
  | [], month, days => (month, days + 1)
  | length :: rest, month, days =>
    if days < length then (month, days + 1) else monthAndDay rest (month + 1) (days - length)

-- The year of a day counted from 1 January of year 1. The mean length of a year gives it up to one
-- year.
def yearOfDay (days : Int) : Int :=
  let guess := days * 400 / 146097 + 1
  if days < daysBeforeYear guess then guess - 1
  else if daysBeforeYear (guess + 1) ≤ days then guess + 1
  else guess

namespace Date

def daysInMonth (d : Date) : Nat := (monthLengths (isLeapYear d.year)).getD (d.month - 1) 0

def isValid (d : Date) : Bool :=
  decide (1 ≤ d.month) && decide (d.month ≤ 12) && decide (1 ≤ d.day) &&
    decide (d.day ≤ d.daysInMonth)

def dayNumber (d : Date) : Int :=
  daysBeforeYear d.year - daysBeforeYear 1970 +
    totalDays ((monthLengths (isLeapYear d.year)).take (d.month - 1)) + d.day - 1

def ofDayNumber (n : Int) : Date :=
  let days := n + daysBeforeYear 1970
  let year := yearOfDay days
  let (month, day) :=
    monthAndDay (monthLengths (isLeapYear year)) 1 (days - daysBeforeYear year).toNat
  ⟨year, month, day⟩

end Date

structure DateTime where
  date : Date
  hour : Nat
  minute : Nat
  second : Nat
  nanosecond : Nat
deriving DecidableEq

end SeriesCell
