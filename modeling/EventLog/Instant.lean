import EventLog.Calendar

/-!
# Points in time

An instant is a point in universal time with nanosecond precision. It counts seconds from the start
of 1970, without leap seconds; a moment inside a leap second has the second before it and a fraction
of a full second or more. The calendar reaches from the year -262143 to the year 262142.

* `Instant.ofParts?`: the instant with given parts, if there is one.
-/

namespace EventLog

namespace Instant

/-- The length of a second in nanoseconds. -/
def second : Nat := 1000000000

/-- The first and the last year of the calendar. -/
def firstYear : Int := -262143

/-- The last year of the calendar. -/
def lastYear : Int := 262142

/-- The seconds of the calendar. -/
def InCalendar (seconds : Int) : Prop :=
  (Date.yearStart firstYear - Date.epochDay) * 86400 ≤ seconds ∧
    seconds < (Date.yearStart (lastYear + 1) - Date.epochDay) * 86400

instance (seconds : Int) : Decidable (InCalendar seconds) :=
  inferInstanceAs (Decidable (_ ∧ _))

end Instant

/-- A point in universal time. -/
structure Instant where
  /-- Seconds since the start of 1970. -/
  seconds : Int
  /-- Nanoseconds since the start of the second; a second or more inside a leap second. -/
  nanos : Nat
  /-- A leap second lasts one second. -/
  nanos_lt : nanos < 2 * Instant.second
  /-- A leap second follows the last second of a minute. -/
  leap : Instant.second ≤ nanos → seconds % 60 = 59
  /-- The calendar has the day. -/
  inCalendar : Instant.InCalendar seconds
  deriving DecidableEq, Repr

namespace Instant

/-- The instant with the given parts, if they make one. -/
def ofParts? (seconds : Int) (nanos : Nat) : Option Instant :=
  if h : nanos < 2 * second ∧ (second ≤ nanos → seconds % 60 = 59) ∧ InCalendar seconds then
    some ⟨seconds, nanos, h.1, h.2.1, h.2.2⟩
  else none

/-- The start of 1970. -/
def epoch : Instant :=
  ⟨0, 0, by decide, by decide, by decide⟩

instance : Inhabited Instant := ⟨epoch⟩

/-- The date of an instant. -/
def date (t : Instant) : Date :=
  Date.ofDayNumber (t.seconds / 86400)

/-- The hour of the day. -/
def hour (t : Instant) : Nat :=
  (t.seconds % 86400 / 3600).toNat

/-- The minute of the hour. -/
def minute (t : Instant) : Nat :=
  (t.seconds % 3600 / 60).toNat

/-- The second of the minute; `60` inside a leap second. -/
def secondOfMinute (t : Instant) : Nat :=
  (t.seconds % 60).toNat + t.nanos / second

/-- The nanoseconds since the start of the second that `secondOfMinute` names. -/
def subsecond (t : Instant) : Nat :=
  t.nanos % second

end Instant

end EventLog
