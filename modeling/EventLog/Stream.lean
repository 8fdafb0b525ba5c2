import EventLog.Feed
import EventLog.Notice
import EventLog.Record.Kind

/-!
# Streams

A stream goes through the records of a log, one per line; empty lines are passed over. A stream ends
at the end of its data or at the first failure, and then stays as it is.

A stream with a closer can be closed at any time. From then on no further record is looked for, and
a failure that a search under way still meets does not count. Without a closer, closing does
nothing.

* `Stream.settle`: what a stream makes of what its feed has found.
* `Stream.close`: closes the stream.
-/

namespace EventLog

/-- What closing does: the result of each invocation, by how many there were before it. -/
abbrev Closer := Nat → Except IoError Unit

/-- What a stream does that can be seen from outside. -/
inductive Effect
  /-- It reads from its source. -/
  | read (outcome : ReadOutcome)
  /-- It counts as closed from here on. -/
  | markedClosed
  /-- It invokes its closer. -/
  | closerCalled (result : Except IoError Unit)
  /-- It gives notice. -/
  | notice (n : Notice)

/-- How far a stream is. -/
inductive State
  /-- There may be more records. -/
  | running
  /-- There are no more records. -/
  | exhausted
  /-- The stream has failed. -/
  | failed (failure : Failure)
  deriving DecidableEq, Repr

/-- A stream of records. -/
structure Stream (ρ : Type) where
  /-- What has been read. -/
  feed : Feed
  /-- The record of the last answer, or the initial one. -/
  record : ρ
  /-- How far the stream is. -/
  state : State
  /-- What closes the source, if anything does. -/
  closer : Option Closer
  /-- Whether the stream has been closed. -/
  closed : Bool
  /-- How often the closer has been invoked. -/
  closings : Nat
  /-- How many records there have been. -/
  eventsRead : Nat
  /-- What the stream has done, the last effect first. -/
  history : List Effect

namespace Stream

variable {ρ : Type}

/-- A stream at its beginning. -/
def new [LogRecord ρ] (limits : Limits) (closer : Option Closer) : Stream ρ where
  feed := .new limits
  record := (LogRecord.shape : Json.Shape ρ).initial
  state := .running
  closer := closer
  closed := false
  closings := 0
  eventsRead := 0
  history := []

/-- The line that was looked at last: its content, or as much as there was of it. -/
def bytes (s : Stream ρ) : Bytes := s.feed.line.bytes

/-- The failure that has ended the stream, if one has. -/
def err (s : Stream ρ) : Option Failure :=
  match s.state with
  | .failed e => some e
  | _ => none

/-- Whether the stream can be closed. -/
def isClosable (s : Stream ρ) : Bool := s.closer.isSome

/-- Whether another record may be looked for. -/
def isOpen (s : Stream ρ) : Bool :=
  s.state = .running && !s.closed

/-- Notes an effect. -/
def after (s : Stream ρ) (e : Effect) : Stream ρ :=
  { s with history := e :: s.history }

/-- The notice that an effect gives, if it is one. -/
def noticeOf : Effect → Option Notice
  | .notice n => some n
  | _ => none

/-- What the stream has told, the first notice first. -/
def notices (s : Stream ρ) : List Notice :=
  (s.history.filterMap noticeOf).reverse

/-! ### Closing -/

/-- Closes the stream. The stream counts as closed before the closer is invoked, and whatever comes
of that. -/
def close (s : Stream ρ) : Except IoError Unit × Stream ρ :=
  match s.closer with
  | none => (.ok (), s)
  | some closer =>
    let result := closer s.closings
    let s := { s.after .markedClosed with closed := true, closings := s.closings + 1 }
    (result, (s.after (.notice .closing)).after (.closerCalled result))

/-- Closes the stream some times. -/
def closeTimes (s : Stream ρ) : Nat → Stream ρ
  | 0 => s
  | n + 1 => s.close.2.closeTimes n

/-- How the handle that closes a stream shows itself. -/
def handleText (s : Stream ρ) : String :=
  "CloseHandle \x7b closed: " ++ toString s.closed ++ ", closable: " ++ toString s.isClosable ++
    " \x7d"

/-! ### Searches -/

/-- The stream after a read: the closings during it, and then its outcome. -/
def afterRead (s : Stream ρ) (r : Read) : Stream ρ :=
  (s.closeTimes r.closings).after (.read r.outcome)

/-- The stream after a search for a line, before it has looked at what was found. -/
def afterSearch (s : Stream ρ) (r : Feed.Search) : Stream ρ :=
  { r.reads.foldl afterRead s with feed := r.feed }

/-- Ends the stream with a failure, which does not count if the stream is closed. -/
def fail (s : Stream ρ) (e : Failure) : Stream ρ :=
  if s.closed then
    { s.after (.notice (.ignored e)) with state := .exhausted }
  else
    { s.after (.notice (.failed e s.eventsRead)) with state := .failed e }

/-- Ends the stream because there is no more data. -/
def exhaust (s : Stream ρ) : Stream ρ :=
  { s.after (.notice (.exhausted s.eventsRead)) with state := .exhausted }

/-- Goes by the record that the line holds. -/
def decodeLine [LogRecord ρ] (s : Stream ρ) : Bool × Stream ρ :=
  match LogRecord.decode s.bytes with
  | .ok record => (true, { s with record := record, eventsRead := s.eventsRead + 1 })
  | .error e => (false, s.fail (.decode e))

/-- What a stream makes of what its feed has found: whether there is another record, or nothing if
the line is empty. -/
def settle [LogRecord ρ] (s : Stream ρ) : Find → Option Bool × Stream ρ
  | .line =>
    if s.bytes = [] then (none, s)
    else
      let (more, t) := s.decodeLine
      (some more, t)
  | .tooLong => (some false, s.fail (.lineTooLong s.feed.limits.maxLine))
  | .ended => (some false, s.exhaust)
  | .failed e => (some false, s.fail (.read e))

theorem afterSearch_feed (s : Stream ρ) (r : Feed.Search) : (s.afterSearch r).feed = r.feed :=
  rfl

theorem fail_feed (s : Stream ρ) (e : Failure) : (s.fail e).feed = s.feed := by
  unfold fail
  split <;> rfl

theorem decodeLine_feed [LogRecord ρ] (s : Stream ρ) : s.decodeLine.2.feed = s.feed := by
  unfold decodeLine
  split
  · rfl
  · exact fail_feed _ _

theorem settle_feed [LogRecord ρ] (s : Stream ρ) (found : Find) :
    (s.settle found).2.feed = s.feed := by
  cases found with
  | line =>
    simp only [settle]
    split
    · rfl
    · exact decodeLine_feed s
  | tooLong => exact fail_feed _ _
  | ended => rfl
  | failed e => exact fail_feed _ _

/-- Only a line leads to a further search, and only a line holds a record. -/
theorem settle_line [LogRecord ρ] {s : Stream ρ} {found : Find}
    (h : (s.settle found).1 ≠ some false) : found = .line := by
  cases found with
  | line => rfl
  | _ => exact absurd rfl h

end Stream

end EventLog
