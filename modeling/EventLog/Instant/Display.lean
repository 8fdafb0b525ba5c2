import EventLog.Instant
import EventLog.Text.Digits

/-!
# Writing an instant

An instant is written as date, `T`, time of day and `Z`. A record holds it exactly, with the
shortest fraction out of none, three, six and nine digits (`Instant.exactText`); a line of output
holds it in milliseconds, cut and not rounded (`Instant.milliText`).
-/

namespace EventLog.Instant

open Text

/-- A year of four digits needs no sign; any other has one, and at least four digits. -/
def yearText (year : Int) : List Char :=
  if 0 ≤ year ∧ year ≤ 9999 then padded 4 year.toNat
  else (if year < 0 then '-' else '+') :: padded 4 year.natAbs

/-- The text up to the whole second. -/
def secondText (t : Instant) : List Char :=
  yearText t.date.year ++ '-' :: padded 2 t.date.month ++ '-' :: padded 2 t.date.day ++
    'T' :: padded 2 t.hour ++ ':' :: padded 2 t.minute ++ ':' :: padded 2 t.secondOfMinute

/-- The shortest exact fraction of a second out of those with no, three, six and nine digits. -/
def fractionText (nanos : Nat) : List Char :=
  if nanos = 0 then []
  else if nanos % 1000000 = 0 then '.' :: padded 3 (nanos / 1000000)
  else if nanos % 1000 = 0 then '.' :: padded 6 (nanos / 1000)
  else '.' :: padded 9 nanos

/-- The text that a record holds. -/
def exactText (t : Instant) : String :=
  String.ofList (t.secondText ++ fractionText t.subsecond ++ ['Z'])

/-- The text that a line of output holds. -/
def milliText (t : Instant) : String :=
  String.ofList (t.secondText ++ '.' :: padded 3 (t.subsecond / 1000000) ++ ['Z'])

end EventLog.Instant
