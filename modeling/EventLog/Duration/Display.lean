import EventLog.Duration
import EventLog.Text.Digits

/-!
# Showing an elapsed time

An elapsed time is shown exactly, in the largest of the units second, millisecond, microsecond and
nanosecond that is not longer than it: `1.5ms`, `60s`, `-250ns`. Minutes and hours are not used, so
that the number before the unit is the whole value.
-/

namespace EventLog.Duration

open Text

/-- The number `n / 10 ^ places` in decimal, without zeros at the end of the fraction and without a
point if there is no fraction. -/
def fixedPoint (n places : Nat) : List Char :=
  let fraction := trimZeros (padded places (n % Nat.pow 10 places))
  digits (n / Nat.pow 10 places) ++ if fraction = [] then [] else '.' :: fraction

/-- The text of a number of nanoseconds. -/
def magnitudeText (n : Nat) : List Char :=
  if 1000000000 ≤ n then fixedPoint n 9 ++ ['s']
  else if 1000000 ≤ n then fixedPoint n 6 ++ ['m', 's']
  else if 1000 ≤ n then fixedPoint n 3 ++ ['\xb5', 's']
  else digits n ++ ['n', 's']

/-- The length of an elapsed time as a number of nanoseconds; a negative time has none. -/
def length? (d : Duration) : Option Nat :=
  if d.nanos < 0 then none else some d.nanos.toNat

/-- The elapsed time of the same length in the other direction. -/
def opposite (d : Duration) : Duration := ⟨-d.nanos⟩

/-- The text of an elapsed time: the sign, if it is negative, and the magnitude. A magnitude that
has no length would be shown as `other` says. -/
def displayOr (other : Duration → String) (d : Duration) : String :=
  let negative := d.nanos < 0
  match (if negative then d.opposite else d).length? with
  | some n => String.ofList ((if negative then ['-'] else []) ++ magnitudeText n)
  | none => other d

/-- The text of an elapsed time. Every magnitude has a length, so that nothing has to be said in its
place. -/
def display (d : Duration) : String :=
  d.displayOr fun _ => ""

end EventLog.Duration
