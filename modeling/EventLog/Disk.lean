import EventLog.Source

/-!
# Files

A disk says for every path what is there. A file is a source of bytes; so is a directory, but its
reads fail.

* `Script.content`: all that a source hands out before it reports its end or fails.
-/

namespace EventLog

/-- What is found under a path. -/
inductive Lookup
  /-- Nothing; the reason is what opening the path says. -/
  | absent (reason : String)
  /-- Something that cannot be opened. -/
  | locked (reason : String)
  /-- Something that can be opened. -/
  | source (script : Script)

/-- Whether there is something under a path. -/
def Lookup.isPresent : Lookup → Bool
  | .absent _ => false
  | _ => true

/-- What is found under each path. -/
abbrev Disk := String → Lookup

/-- All bytes that a source hands out before it reports its end for the first time. An interrupted
read is repeated; any other failure is the answer. -/
def Script.content : Script → Except IoError Bytes
  | [] => .ok []
  | .data bs :: script => (content script).map (bs ++ ·)
  | .endOfData :: _ => .ok []
  | .fail e :: script => if e.kind = .interrupted then content script else .error e
  | .close :: script => content script

/-- All bytes under a path, or the reason why they cannot be read. -/
def Lookup.content : Lookup → Except String Bytes
  | .absent reason => .error reason
  | .locked reason => .error reason
  | .source script => script.content.mapError IoError.message

end EventLog
