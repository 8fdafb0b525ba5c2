import EventLog.Record.Display
import EventLog.Record.Encoding

/-!
# Kinds of records

What a log of either kind needs to know about its records: how one is read, how it is written again
and how it looks as a line of output.
-/

namespace EventLog

open Json

/-- A kind of record that a log can hold. -/
class LogRecord (ρ : Type) where
  /-- How a record is read; its initial value is also the record before any other. -/
  shape : Shape ρ
  /-- The document of a record. -/
  document : ρ → Except EncodeError (List Char)
  /-- The line of output for a record, which may be wide. -/
  line : (wide : Bool) → ρ → String

instance : LogRecord ErrorEvent where
  shape := ErrorEvent.shape
  document e := .ok e.document
  line _ e := e.line

instance : LogRecord AuditEvent where
  shape := AuditEvent.shape
  document := AuditEvent.document
  line := AuditEvent.line

/-- The record that a line of a log holds. -/
def LogRecord.decode {ρ : Type} [LogRecord ρ] (line : Bytes) : Except Json.Error ρ :=
  (LogRecord.shape : Shape ρ).decode line

end EventLog
