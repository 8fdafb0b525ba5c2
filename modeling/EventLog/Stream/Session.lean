import EventLog.Stream

/-!
# Reading a source

A session is a stream together with the source that it reads from. It looks for lines until there is
an answer.

* `Session.advance`: looks for the next record.
* `Session.drain`: all records that are left.
* `Session.advance_size`: each record uses up some of what is left, so that there is a last one.
-/

namespace EventLog

/-- A stream and what its source will do. -/
structure Session (ρ : Type) where
  /-- The stream. -/
  stream : Stream ρ
  /-- What the source does next. -/
  script : Script

namespace Session

variable {ρ : Type}

/-- A session at its beginning. -/
def new [LogRecord ρ] (limits : Limits) (closer : Option Closer) (script : Script) : Session ρ :=
  ⟨.new limits closer, script⟩

/-- Closes the stream. -/
def close (s : Session ρ) : Except IoError Unit × Session ρ :=
  let (result, stream) := s.stream.close
  (result, { s with stream := stream })

/-- What comes of looking for the next line. -/
def search (s : Session ρ) : Feed.Search :=
  s.stream.feed.next s.script

/-- What the stream makes of the next line. -/
def step [LogRecord ρ] (s : Session ρ) : Option Bool × Session ρ :=
  let (answer, t) := (s.stream.afterSearch s.search).settle s.search.find
  (answer, ⟨t, s.search.rest⟩)

/-- How much is left: what the source may still do, and what is buffered. -/
def size (s : Session ρ) : Nat :=
  s.script.weight + s.stream.feed.buffer.length

theorem step_size [LogRecord ρ] {s : Session ρ} (h : s.step.1 ≠ some false) :
    s.step.2.size < s.size := by
  have h₁ : s.search.find = .line := Stream.settle_line h
  have h₂ := Feed.next_size (Or.inl h₁)
  simp only [step, size, Stream.settle_feed, Stream.afterSearch_feed]
  exact h₂

/-- Looks for a line that is not empty. -/
def seek [LogRecord ρ] (s : Session ρ) : Bool × Session ρ :=
  match _h : s.step with
  | (some more, t) => (more, t)
  | (none, t) => t.seek
termination_by s.size
decreasing_by
  have h := step_size (s := s)
  rw [_h] at h
  exact h nofun

/-- Looks for the next record. A stream that has ended or has been closed does not read any more. -/
def advance [LogRecord ρ] (s : Session ρ) : Bool × Session ρ :=
  if s.stream.isOpen then s.seek else (false, s)

theorem seek_size [LogRecord ρ] {s t : Session ρ} (h : s.seek = (true, t)) : t.size < s.size := by
  fun_induction seek s with
  | case1 s more u hu =>
    have hs := step_size (s := s)
    cases h
    rw [hu] at hs
    exact hs nofun
  | case2 s u hu ih =>
    have hs := step_size (s := s)
    rw [hu] at hs
    exact Nat.lt_trans (ih h) (hs nofun)

/-- Each record uses up some of what is left. -/
theorem advance_size [LogRecord ρ] {s t : Session ρ} (h : s.advance = (true, t)) :
    t.size < s.size := by
  unfold advance at h
  split at h
  · exact seek_size h
  · cases h

/-- The records that are left, each with its line, and the session after them. -/
def drain [LogRecord ρ] (s : Session ρ) : List (Bytes × ρ) × Session ρ :=
  match _h : s.advance with
  | (true, t) =>
    let (records, last) := t.drain
    ((t.stream.bytes, t.stream.record) :: records, last)
  | (false, t) => ([], t)
termination_by s.size
decreasing_by exact advance_size _h

/-- What the source has not handed out. What is in the buffer of the stream is lost. -/
def intoSource (s : Session ρ) : Bytes := s.script.unread

end Session

end EventLog
