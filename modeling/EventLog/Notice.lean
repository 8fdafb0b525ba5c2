import EventLog.Record.Encoding
import EventLog.Stream.Failure

/-!
# Notices

What the program tells about its own work, for those who look after it. A notice has a level, says
which part of the program it comes from, and carries fields.
-/

namespace EventLog

/-- How important a notice is. -/
inductive Level
  | trace
  | debug
  | info
  | warn
  | error
  deriving DecidableEq, Repr

/-- The rank of a level; more important levels rank higher. -/
def Level.rank : Level → Nat
  | .trace => 0
  | .debug => 1
  | .info => 2
  | .warn => 3
  | .error => 4

/-- The name of a level. -/
def Level.name : Level → String
  | .trace => "TRACE"
  | .debug => "DEBUG"
  | .info => "INFO"
  | .warn => "WARN"
  | .error => "ERROR"

/-- What the program tells. -/
inductive Notice
  /-- A stream is being closed. -/
  | closing
  /-- The source of a stream is at its end, after some events. -/
  | exhausted (events : Nat)
  /-- A stream has failed, after some events. -/
  | failed (failure : Failure) (events : Nat)
  /-- A failure of a closed stream does not count. -/
  | ignored (failure : Failure)
  /-- The settings are taken from a file. -/
  | loading (path : String)
  /-- There is no file with settings. -/
  | noSettings
  /-- A log has been read, as far as possible. -/
  | finished (events : Nat)
  /-- A record cannot be written. -/
  | unwritable (error : EncodeError)
  deriving DecidableEq, Repr

/-- The value of a field. -/
inductive FieldValue
  /-- Some words. -/
  | text (s : String)
  /-- A number of things. -/
  | count (n : Nat)
  deriving DecidableEq, Repr

/-- The text of a field. -/
def FieldValue.toText : FieldValue → String
  | .text s => s
  | .count n => toString n

namespace Notice

/-- How important a notice is. -/
def level : Notice → Level
  | .exhausted _ => .trace
  | .closing | .ignored _ | .loading _ | .noSettings => .debug
  | .finished _ => .info
  | .failed _ _ | .unwritable _ => .warn

/-- The part of the program that a notice comes from. -/
def target : Notice → String
  | .closing => "log_stream::stream::close"
  | .exhausted _ | .failed _ _ | .ignored _ => "log_stream::stream::event_stream"
  | .loading _ | .noSettings => "log_stream::config::loader"
  | .finished _ | .unwritable _ => "log_stream"

/-- The words of a notice. -/
def message : Notice → String
  | .closing => "Closing event stream"
  | .exhausted _ => "Event stream exhausted"
  | .failed _ _ => "Event stream failed"
  | .ignored _ => "Ignoring error on closed event stream"
  | .loading _ => "Loading config file"
  | .noSettings => "No config file found, using defaults"
  | .finished _ => "Finished reading event log"
  | .unwritable _ => "Failed to encode event"

/-- The fields of a notice. -/
def fields : Notice → List (String × FieldValue)
  | .closing | .noSettings => []
  | .exhausted n | .finished n => [("events", .count n)]
  | .failed e n => [("error", .text e.message), ("events", .count n)]
  | .ignored e => [("error", .text e.message)]
  | .loading path => [("path", .text path)]
  | .unwritable e => [("error", .text e.message)]

/-- A notice as a line, without the time. -/
def line (n : Notice) : String :=
  n.level.name ++ " " ++ n.target ++ ": " ++ n.message ++
    String.join (n.fields.map fun (key, value) => " " ++ key ++ "=" ++ value.toText)

end Notice

end EventLog
