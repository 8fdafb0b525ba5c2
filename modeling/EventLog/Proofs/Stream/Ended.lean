import EventLog.Proofs.Stream.Answer

/-!
# Streams that have ended

A stream ends when a search finds nothing: it was closed before, or there is no more data, or there
is a failure, which may or may not count. From then on it does not read, and whoever looks at it
sees the same for ever. Closing it still invokes its closer, but nothing comes of that.

* `Session.run_rests`: a stream that is not open any more rests.
* `Session.ended_for_good`: so does every stream after a search that has found nothing.
-/

namespace EventLog

variable {ρ : Type}

/-- What a read has come back with, if an effect is one. -/
def Effect.outcome? : Effect → Option ReadOutcome
  | .read outcome => some outcome
  | _ => none

/-- What the reads of a stream have come back with, the first of them first. -/
def Stream.reads (s : Stream ρ) : List ReadOutcome :=
  (s.history.filterMap Effect.outcome?).reverse

lemma Stream.reads_close (s : Stream ρ) : s.close.2.reads = s.reads := by
  unfold Stream.close
  split
  · rfl
  · rfl

namespace Session

/-- The session `t` shows what the session `s` shows, and there has been no read in between. -/
structure Rests (s t : Session ρ) : Prop where
  script : t.script = s.script
  reads : t.stream.reads = s.stream.reads
  feed : t.stream.feed = s.stream.feed
  record : t.stream.record = s.stream.record
  state : t.stream.state = s.stream.state
  eventsRead : t.stream.eventsRead = s.stream.eventsRead

lemma Rests.refl (s : Session ρ) : s.Rests s :=
  ⟨rfl, rfl, rfl, rfl, rfl, rfl⟩

lemma Rests.trans {s t u : Session ρ} (h : s.Rests t) (h' : t.Rests u) : s.Rests u where
  script := h'.script.trans h.script
  reads := h'.reads.trans h.reads
  feed := h'.feed.trans h.feed
  record := h'.record.trans h.record
  state := h'.state.trans h.state
  eventsRead := h'.eventsRead.trans h.eventsRead

lemma Rests.bytes {s t : Session ρ} (h : s.Rests t) : t.stream.bytes = s.stream.bytes :=
  congrArg (fun f : Feed => f.line.bytes) h.feed

lemma Rests.err {s t : Session ρ} (h : s.Rests t) : t.stream.err = s.stream.err := by
  rw [Stream.err, Stream.err, h.state]

variable [LogRecord ρ]

/-- Whatever is asked of a stream that is not open any more, it rests. -/
lemma perform_rests {s : Session ρ} (h : ¬ s.stream.isOpen) (op : Operation) :
    s.Rests (s.perform op) := by
  cases op with
  | advance =>
    rw [perform_advance_of_not_open h]
    exact Rests.refl s
  | close =>
    have hc := s.close_closings
    exact ⟨rfl, Stream.reads_close s.stream, hc.feed, hc.record, hc.state, hc.eventsRead⟩

lemma run_rests {s : Session ρ} (h : ¬ s.stream.isOpen) (ops : List Operation) :
    s.Rests (s.run ops) := by
  induction ops using List.reverseRecOn with
  | nil => exact Rests.refl s
  | append_singleton ops op ih =>
    rw [run_concat]
    exact ih.trans (perform_rests (run_of_ended h ops).1 op)

omit [LogRecord ρ] in
lemma not_open_of_err {s : Session ρ} {e : Failure} (h : s.stream.err = some e) :
    ¬ s.stream.isOpen := by
  intro hopen
  rw [Stream.isOpen, Bool.and_eq_true, decide_eq_true_eq] at hopen
  rw [Stream.err, hopen.1] at h
  cases h

/-- **A stream that has ended has ended for good.** Once a search has found nothing, whatever its
reason, and in whatever order the stream is then advanced and closed, no search finds anything or
changes anything, nothing more is read, and the line, the record, the count of records and the
failure, or that there is none, stay as they are. A failure stays from the moment it is there. -/
theorem ended_for_good (limits : Limits) (closer : Option Closer) (script : Script)
    (ops : List Operation) :
    let s : Session ρ := (Session.new limits closer script).run ops
    (s.advance.1 = false → ∀ later,
      let t := s.advance.2
      let u := t.run later
      u.advance = (false, u) ∧ u.script = t.script ∧ u.stream.reads = t.stream.reads ∧
        u.stream.bytes = t.stream.bytes ∧ u.stream.record = t.stream.record ∧
        u.stream.eventsRead = t.stream.eventsRead ∧ u.stream.err = t.stream.err) ∧
      ∀ e, s.stream.err = some e → ∀ later, (s.run later).stream.err = some e := by
  intro s
  constructor
  · intro h later
    have hended := advance_false h
    have hrests := run_rests hended later
    exact ⟨advance_of_not_open (run_of_ended hended later).1, hrests.script, hrests.reads,
      hrests.bytes, hrests.record, hrests.eventsRead, hrests.err⟩
  · intro e he later
    rw [(run_rests (not_open_of_err he) later).err, he]

/-- A stream ends with a line that is too long, and its closer fails afterwards. -/
theorem ended_for_good_tooLong :
    let script : Script := [.data (utf8 "\x7b\x7d\n\x7b\"message\":1\x7d\n\x7b\x7d\n")]
    let s : Session ErrorEvent :=
      (Session.new ⟨4, 3⟩ (some fun _ => .error ⟨.other, "stuck"⟩) script).run [.advance]
    let t := s.advance.2
    let u := t.run [.close, .advance, .close]
    s.advance.1 = false ∧ t.stream.err = some (.lineTooLong 4) ∧
      u.advance = (false, u) ∧ u.stream.reads = t.stream.reads ∧
      u.stream.err = some (.lineTooLong 4) := by
  intro script s t u
  obtain ⟨hended, hfailed⟩ := ended_for_good (ρ := ErrorEvent) ⟨4, 3⟩
    (some fun _ => .error ⟨.other, "stuck"⟩) script [.advance]
  have hfalse : s.advance.1 = false := by decide +kernel
  have herr : t.stream.err = some (.lineTooLong 4) := by decide +kernel
  obtain ⟨hadvance, -, hreads, -, -, -, hsame⟩ := hended hfalse [.close, .advance, .close]
  exact ⟨hfalse, herr, hadvance, hreads, hsame.trans herr⟩

end Session

end EventLog
