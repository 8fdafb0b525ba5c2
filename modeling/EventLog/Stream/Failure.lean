import EventLog.Json.Fault
import EventLog.Source

/-!
# Failures of a stream

What ends a stream before its source has ended. Errors of closing a stream are not among them: they
are the answer to whoever closed it.
-/

namespace EventLog

/-- Why a stream has failed. -/
inductive Failure
  /-- The source failed. -/
  | read (error : IoError)
  /-- A line is longer than the limit. -/
  | lineTooLong (limit : Nat)
  /-- A line holds no record. -/
  | decode (error : Json.Error)
  deriving DecidableEq, Repr

/-- The words of a message for a failure. -/
def Failure.message : Failure → String
  | .read e => "Failed to read event stream: " ++ e.message
  | .lineTooLong limit => "Event line exceeds " ++ toString limit ++ " bytes"
  | .decode e => "Failed to decode event: " ++ e.message

end EventLog
