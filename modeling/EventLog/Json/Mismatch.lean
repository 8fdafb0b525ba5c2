import EventLog.Decimal.Shortest
import EventLog.Duration.Reader
import EventLog.Instant.Reader
import EventLog.Text.Quoted

/-!
# Values that are not what a record asks for

A document can be flawless and still not be a record: a member of the wrong type, a number out of
range, a field given twice, a text that is no time. These are the mismatches, with the wording that
a reader of the log gets to see.
-/

namespace EventLog.Json

open Decimal Text

/-- The value that stands in the place of another one, as far as a message tells. -/
inductive Found
  /-- The word of no value. -/
  | null
  /-- A truth value. -/
  | boolean (value : Bool)
  /-- A whole number that fits in 64 bits. -/
  | integer (value : Int)
  /-- Any other number. -/
  | float (negative : Bool) (magnitude : Magnitude)
  /-- A string. -/
  | string (value : String)
  /-- A list, whatever is in it. -/
  | sequence
  /-- An object, whatever is in it. -/
  | map
  deriving DecidableEq, Repr

/-- The words of a message for a value. -/
def Found.text : Found → String
  | .null => "null"
  | .boolean true => "boolean `true`"
  | .boolean false => "boolean `false`"
  | .integer n => "integer `" ++ String.ofList (signed n) ++ "`"
  | .float negative x => "floating point `" ++ floatText negative x ++ "`"
  | .string s => "string " ++ quoted s
  | .sequence => "sequence"
  | .map => "map"

/-- Why a value does not fit a record. -/
inductive Mismatch
  /-- The value has another type than the one expected. -/
  | wrongType (found : Found) (expected : String)
  /-- The value has the type, but is not one of those expected. -/
  | wrongValue (found : Found) (expected : String)
  /-- An object names a field twice. -/
  | duplicateField (name : String)
  /-- A number of nanoseconds is out of range. -/
  | nanosOutOfRange (nanos : Int)
  /-- A string is no elapsed time. -/
  | duration (input : String) (fault : Duration.Fault)
  /-- A string is no instant. -/
  | instant (fault : Instant.Fault)
  deriving DecidableEq, Repr

/-- The words of a message for a mismatch. -/
def Mismatch.message : Mismatch → String
  | .wrongType found expected => "invalid type: " ++ found.text ++ ", expected " ++ expected
  | .wrongValue found expected => "invalid value: " ++ found.text ++ ", expected " ++ expected
  | .duplicateField name => "duplicate field `" ++ name ++ "`"
  | .nanosOutOfRange n => "duration " ++ String.ofList (signed n) ++ " overflows i64 nanoseconds"
  | .duration input fault => fault.message input
  | .instant fault => fault.message

end EventLog.Json
