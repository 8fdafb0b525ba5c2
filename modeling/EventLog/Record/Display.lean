import EventLog.Duration.Display
import EventLog.Instant.Display
import EventLog.Record
import EventLog.Text.Shorten
import EventLog.Text.Style

/-!
# Records as lines of output

A line starts with the kind of the record in brackets, or with the time before it; colours tell the
fields apart. The status code is green for a request that was served, yellow for a mistake of the
client and red for all else.
-/

namespace EventLog

open Text

/-- How many characters of an identity fit in a line that is not wide. -/
def identityLimit : Nat := 16

/-- A tag at the front of a line. -/
def tag (c : Colour) (s : String) : String :=
  bold (coloured c s)

/-- The line of an error event. -/
def ErrorEvent.line (e : ErrorEvent) : String :=
  tag .red "[ERROR]" ++ " " ++ e.message

/-- The colour of a status code. -/
def codeColour (code : Int64) : Colour :=
  if 200 ≤ code.toInt ∧ code.toInt ≤ 299 then .green
  else if 400 ≤ code.toInt ∧ code.toInt ≤ 499 then .yellow
  else .red

/-- A status code in its colour. -/
def codeText (code : Int64) : String :=
  coloured (codeColour code) (String.ofList (signed code.toInt))

/-- The line of an audit event. -/
def AuditEvent.line (wide : Bool) (e : AuditEvent) : String :=
  dimmed e.time.milliText ++ " " ++ tag .blue "[AUDIT]" ++ " " ++ codeText e.response.code ++ " " ++
    e.request.path ++ " " ++ coloured .cyan (shorten e.request.identity identityLimit wide) ++
    " " ++ dimmed e.response.elapsed.display

end EventLog
