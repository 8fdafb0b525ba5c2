import EventLog.Json.Shape

/-!
# Records

The service writes two logs. The error log holds messages; the audit log holds, for each request
that has been handled, when that was, what the client asked for and what it got. A field that a log
does not give is empty, zero or the start of 1970.

* `ErrorEvent.shape`, `AuditEvent.shape`: how records are read from a log.
* `Response.isSuccess`: whether a request was served.
-/

namespace EventLog

open Json

/-- A message of the error log. -/
structure ErrorEvent where
  /-- What the service reported. -/
  message : String
  deriving DecidableEq, Repr, Inhabited

/-- What a client asked for. -/
structure Request where
  /-- The path that the client named. -/
  path : String
  /-- Who the client is. -/
  identity : String
  deriving DecidableEq, Repr, Inhabited

/-- What a client got. -/
structure Response where
  /-- The status code. -/
  code : Int64
  /-- How long it took to handle the request. -/
  elapsed : Duration
  deriving DecidableEq, Repr, Inhabited

/-- An entry of the audit log. -/
structure AuditEvent where
  /-- When the request had been handled. -/
  time : Instant
  /-- What the client asked for. -/
  request : Request
  /-- What the client got. -/
  response : Response
  deriving DecidableEq, Repr, Inhabited

/-- Status codes from 200 to 299 tell that the request was served. -/
def Response.isSuccess (r : Response) : Bool :=
  200 ≤ r.code.toInt && r.code.toInt < 300

/-- The fields of an error event. -/
def ErrorEvent.shape : Shape ErrorEvent where
  title := "struct ErrorEvent"
  initial := ⟨""⟩
  fields := [⟨"message", String, .string, fun v e => { e with message := v }⟩]

/-- The fields of a request. -/
def Request.shape : Shape Request where
  title := "struct AuditRequest"
  initial := ⟨"", ""⟩
  fields :=
    [⟨"path", String, .string, fun v r => { r with path := v }⟩,
     ⟨"identity", String, .string, fun v r => { r with identity := v }⟩]

/-- The fields of a response. -/
def Response.shape : Shape Response where
  title := "struct AuditResponse"
  initial := ⟨0, .zero⟩
  fields :=
    [⟨"code", Int64, .code, fun v r => { r with code := v }⟩,
     ⟨"time", Duration, .duration, fun v r => { r with elapsed := v }⟩]

/-- The fields of an audit event. -/
def AuditEvent.shape : Shape AuditEvent where
  title := "struct AuditEvent"
  initial := ⟨.epoch, Request.shape.initial, Response.shape.initial⟩
  fields :=
    [⟨"time", Instant, .instant, fun v e => { e with time := v }⟩,
     ⟨"request", Request, Request.shape.reader, fun v e => { e with request := v }⟩,
     ⟨"response", Response, Response.shape.reader, fun v e => { e with response := v }⟩]

end EventLog
