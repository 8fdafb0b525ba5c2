import EventLog.Instant.Display
import EventLog.Json.Printer
import EventLog.Record

/-!
# Records as documents

Every record is written as an object with all its fields in order. An elapsed time is written in
nanoseconds, and only if it fits in 64 bits; that is the one way in which writing a record can fail.
-/

namespace EventLog

open Json Text

/-- Why a record cannot be written. -/
inductive EncodeError
  /-- The elapsed time does not fit in 64 bits. -/
  | elapsedOutOfRange
  deriving DecidableEq, Repr

/-- The words of a message. -/
def EncodeError.message : EncodeError → String
  | .elapsedOutOfRange => "duration overflows i64 nanoseconds"

/-- The document of an error event. -/
def ErrorEvent.document (e : ErrorEvent) : List Char :=
  objectText [("message", stringText e.message)]

/-- The document of a request. -/
def Request.document (r : Request) : List Char :=
  objectText [("path", stringText r.path), ("identity", stringText r.identity)]

/-- The document of a response. -/
def Response.document (r : Response) : Except EncodeError (List Char) :=
  if r.elapsed.Storable then
    .ok (objectText [("code", signed r.code.toInt), ("time", signed r.elapsed.nanos)])
  else .error .elapsedOutOfRange

/-- The document of an audit event. -/
def AuditEvent.document (e : AuditEvent) : Except EncodeError (List Char) := do
  let response ← e.response.document
  return objectText
    [("time", stringText e.time.exactText), ("request", e.request.document),
      ("response", response)]

end EventLog
