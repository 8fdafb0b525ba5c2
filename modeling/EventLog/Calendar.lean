/-!
# The calendar

Dates of the proleptic Gregorian calendar, with a year zero and negative years, and their numbering
by days. Day `0` is 1 January 1970. A year starts `365` days after the one before it, or `366` if
that one was a leap year, and `yearStart` sums this up in closed form; `Date.ofDayNumber` goes back
from the number of a day to its date.

* `Date.dayNumber`: the number of a date.
* `Date.ofDayNumber`: the date of a number.
-/

namespace EventLog

/-- A day of the calendar by its parts. -/
structure Date where
  /-- The year; `0` is the year before `1`. -/
  year : Int
  /-- The month, `1` to `12`. -/
  month : Nat
  /-- The day of the month, from `1` on. -/
  day : Nat
  deriving DecidableEq, Repr

namespace Date

/-- Every fourth year is a leap year, but of the full centuries only every fourth. -/
def isLeap (year : Int) : Bool :=
  year % 4 = 0 ∧ (year % 100 ≠ 0 ∨ year % 400 = 0)

/-- The lengths of the months of a year. -/
def monthLengths (leap : Bool) : List Nat :=
  [31, if leap then 29 else 28, 31, 30, 31, 30, 31, 31, 30, 31, 30, 31]

/-- The days from the first day of the year `0` to the first day of a year. -/
def yearStart (year : Int) : Int :=
  365 * year + (year + 3) / 4 - (year + 99) / 100 + (year + 399) / 400

/-- The days of the years before 1970. -/
def epochDay : Int := 719528

/-- The days of a year before the first day of a month. -/
def monthStart (leap : Bool) (month : Nat) : Nat :=
  ((monthLengths leap).take (month - 1)).foldl (· + ·) 0

/-- A date that the calendar has. -/
def Valid (d : Date) : Prop :=
  1 ≤ d.month ∧ d.month ≤ 12 ∧ 1 ≤ d.day ∧
    d.day ≤ ((monthLengths (isLeap d.year)).getD (d.month - 1) 0)

instance (d : Date) : Decidable d.Valid :=
  inferInstanceAs (Decidable (_ ∧ _ ∧ _ ∧ _))

/-- The number of a date, counted from 1 January 1970. -/
def dayNumber (d : Date) : Int :=
  yearStart d.year + (monthStart (isLeap d.year) d.month : Nat) + d.day - 1 - epochDay

/-- The year that a day belongs to, counted from the first day of the year `0`. The mean length of a
year points at the year or at a neighbour of it. -/
def yearOf (day : Int) : Int :=
  let guess := 400 * day / 146097
  if day < yearStart guess then guess - 1
  else if yearStart (guess + 1) ≤ day then guess + 1
  else guess

/-- The month and the day of the month, for months of the given lengths from `month` on and the
number of days that have passed. -/
def monthOf (month : Nat) : List Nat → Nat → Nat × Nat
  | [], passed => (month, passed + 1)
  | length :: lengths, passed =>
    if passed < length then (month, passed + 1)
    else monthOf (month + 1) lengths (passed - length)

/-- The date with a number. -/
def ofDayNumber (n : Int) : Date :=
  let day := n + epochDay
  let year := yearOf day
  let (month, dayOfMonth) := monthOf 1 (monthLengths (isLeap year)) (day - yearStart year).toNat
  ⟨year, month, dayOfMonth⟩

end Date

end EventLog
