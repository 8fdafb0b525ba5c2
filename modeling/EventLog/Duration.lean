import EventLog.Range

/-!
# Elapsed time

An elapsed time is a signed whole number of nanoseconds. In a log it is kept within the range of a
64-bit signed integer (`Duration.Storable`); values outside that range can be shown, but not
written to a log.
-/

namespace EventLog

/-- An elapsed time; negative if the end lies before the start. -/
structure Duration where
  /-- The whole length in nanoseconds. -/
  nanos : Int
  deriving DecidableEq, Repr, Inhabited

namespace Duration

/-- An elapsed time that a log can hold. -/
def Storable (d : Duration) : Prop :=
  Fits64 d.nanos

instance (d : Duration) : Decidable d.Storable :=
  inferInstanceAs (Decidable (Fits64 _))

/-- No time at all. -/
def zero : Duration := ⟨0⟩

end Duration

/-- The units in which an elapsed time is written. -/
inductive TimeUnit
  | nanosecond
  | microsecond
  | millisecond
  | second
  | minute
  | hour
  deriving DecidableEq, Repr

/-- The length of a unit in nanoseconds. -/
def TimeUnit.nanos : TimeUnit → Nat
  | .nanosecond => 1
  | .microsecond => 1000
  | .millisecond => 1000000
  | .second => 1000000000
  | .minute => 60 * 1000000000
  | .hour => 3600 * 1000000000

end EventLog
