import EventLog.Proofs.Stream.Run

/-!
# A stream against the whole log

A stream over a source that delivers a log once, in whatever pieces, goes through the records that
the plain reading of the whole log finds, and ends as that reading ends.

* `Session.Faces.advance`: one search, given the reading that a session has before it.
* `Session.drain_lines`: the records that are left, for a session under way.
* `Session.drain_new_eq_read`: all of them.
-/

namespace EventLog

namespace Script

lemma Delivers.beyond {script : Script} {log : Bytes} {ending : SourceEnd}
    (h : Delivers script log ending) (he : ending = .endOfData) :
    Delivers script.beyond [] .endOfData := by
  induction h with
  | nil => exact .nil
  | data bs _ ih => exact ih he
  | interrupted hk _ ih =>
    rw [Script.beyond, if_pos hk]
    exact ih he
  | endOfData h _ => exact h
  | failed _ _ => cases he

end Script

namespace Log

variable {ρ : Type} [LogRecord ρ] {limit : ℕ} {ending : SourceEnd} {log : Bytes}

lemma readLines_of_next_failed {e : Failure} (h : next (ρ := ρ) limit ending log = .failed e) :
    readLines (ρ := ρ) limit ending (lines limit ending log) = ⟨[], some e⟩ := by
  rcases hl : lines limit ending log with _ | ⟨c, more⟩
  · rw [next_of_lines_nil hl] at h
    cases ending with
    | endOfData => cases h
    | failed e' =>
      cases h
      rfl
  · cases hj : judge (ρ := ρ) limit c with
    | ok v =>
      rw [next_of_judge_ok hl hj] at h
      cases h
    | error e' =>
      rw [next_of_judge_error hl hj] at h
      cases h
      rw [readLines, hj]

lemma readLines_of_next_nothing (h : next (ρ := ρ) limit ending log = .nothing) :
    readLines (ρ := ρ) limit ending (lines limit ending log) = ⟨[], none⟩ := by
  rcases hl : lines limit ending log with _ | ⟨c, more⟩
  · rw [next_of_lines_nil hl] at h
    cases ending with
    | endOfData => rfl
    | failed e' => cases h
  · cases hj : judge (ρ := ρ) limit c with
    | ok v =>
      rw [next_of_judge_ok hl hj] at h
      cases h
    | error e' =>
      rw [next_of_judge_error hl hj] at h
      cases h

end Log

namespace Session

open Log

variable {ρ : Type} [LogRecord ρ]

/-- A source that delivers its data once goes on doing so after a line. -/
lemma step_delivers {s : Session ρ} {log : Bytes} {ending : SourceEnd}
    (h : s.script.Delivers log ending) :
    s.step.2.script.closings = s.script.closings ∧
      (s.step.1 ≠ some false → ∃ rest, s.step.2.script.Delivers rest ending) := by
  obtain ⟨h₁, h₂⟩ := Feed.take_delivers s.stream.feed.startLine s.script log h
  have hcl := Feed.take_closings s.stream.feed.startLine s.script
  rw [h₁, Nat.zero_add] at hcl
  refine ⟨hcl, fun hne => ?_⟩
  rcases h₂ with hrest | ⟨e, he⟩
  · exact hrest
  · refine absurd ?_ hne
    rw [step_eq, show s.search.find = .failed e from he]
    rfl

lemma seek_delivers {s : Session ρ} {log : Bytes} {ending : SourceEnd}
    (h : s.script.Delivers log ending) :
    s.seek.2.script.closings = s.script.closings ∧
      (s.seek.1 = true → ∃ rest, s.seek.2.script.Delivers rest ending) := by
  fun_induction seek s generalizing log with
  | case1 s more t ht =>
    obtain ⟨h₁, h₂⟩ := step_delivers h
    rw [ht] at h₁ h₂
    refine ⟨h₁, fun hm => h₂ ?_⟩
    obtain rfl : more = true := hm
    simp
  | case2 s t ht ih =>
    obtain ⟨h₁, h₂⟩ := step_delivers h
    rw [ht] at h₁ h₂
    obtain ⟨rest, hrest⟩ := h₂ (by simp)
    obtain ⟨h₃, h₄⟩ := ih hrest
    exact ⟨h₃.trans h₁, h₄⟩

omit [LogRecord ρ] in
/-- The lines that are left after a record are those after its own. -/
lemma Leaves.lines_eq {s t : Session ρ} {more : List Bytes} {log rest : Bytes} {ending : SourceEnd}
    (h : s.Leaves more t) (hs : s.script.Delivers log ending)
    (ht : t.script.Delivers rest ending) : t.lines = more := by
  rcases h with ⟨-, -, h⟩ | ⟨rfl, he, hbuf, hscript⟩
  · exact h
  · -- the source has reported the end: it has nothing more to hand out
    obtain rfl : ending = .endOfData := hs.ahead_eq.2.symm.trans he
    obtain ⟨ha, hend⟩ := (hs.beyond rfl).ahead_eq
    have hp : t.pending = [] := by
      rw [pending, Feed.pending, hbuf, hscript, ha, List.append_nil]
    rw [lines, hp, hscript, hend]
    rfl

/-! ### Sessions with a reading before them -/

/-- An open session over a source that delivers its data once has this reading before it. -/
structure Faces (s : Session ρ) (r : Reading ρ) : Prop where
  isOpen : s.stream.isOpen
  counts : s.limit + 2 ≤ 0xFFFFFFFFFFFFFFFF
  reading : ∃ log ending, s.script.Delivers log ending ∧ readLines s.limit ending s.lines = r

/-- A search finds this record in this line and leaves this reading. -/
structure Finds (s : Session ρ) (line : Bytes) (value : ρ) (r : Reading ρ) : Prop where
  found : s.advance.1 = true
  bytes : s.advance.2.stream.bytes = line
  record : s.advance.2.stream.record = value
  err : s.advance.2.stream.err = none
  faces : s.advance.2.Faces r

/-- A search finds no record and ends the session with this failure, or with none. -/
structure Stops (s : Session ρ) (failure : Option Failure) : Prop where
  nothing : s.advance.1 = false
  record : s.advance.2.stream.record = s.stream.record
  err : s.advance.2.stream.err = failure
  ended : ¬ s.advance.2.stream.isOpen

/-- A source that delivers its data once does not close the stream during a search. -/
lemma seek_unclosed {s : Session ρ} {log : Bytes} {ending : SourceEnd} (hopen : s.stream.isOpen)
    (hs : s.script.Delivers log ending) : s.seek.2.stream.closed = false := by
  rw [s.seek_kept.closed, (seek_delivers hs).1, (running_of_open hopen).2]
  simp

/-- **A search goes by the reading.** It finds the first record of the reading, or it ends with its
failure if there is no record. -/
theorem Faces.advance {s : Session ρ} {r : Reading ρ} (h : s.Faces r) :
    (∃ line value more, r.records = (line, value) :: more ∧ s.Finds line value ⟨more, r.failure⟩) ∨
      (r.records = [] ∧ s.Stops r.failure) := by
  obtain ⟨log, ending, hs, rfl⟩ := h.reading
  have hsought := seek_sought (s := s) (Or.inl h.counts)
  have hclosed := seek_unclosed h.isOpen hs
  have hend := hs.ahead_eq.2
  cases hm : s.seek.1 with
  | true =>
    obtain ⟨rest, hrest⟩ := (seek_delivers hs).2 hm
    rw [hm] at hsought
    cases hsought with
    | @record _ c more v hlines hjudge bytes value eventsRead state left =>
      -- a record: what it leaves makes the lines after its own
      have hlim : s.seek.2.limit = s.limit := congrArg Limits.maxLine s.seek_kept.limits
      have hreading : readLines s.limit ending s.lines =
          ⟨(c, v) :: (readLines s.limit ending more).records,
            (readLines (ρ := ρ) s.limit ending more).failure⟩ := by
        rw [hlines, readLines, hjudge]
      rw [(running_of_open h.isOpen).1] at state
      rw [← advance_of_open h.isOpen] at hm hclosed hrest bytes value state left hlim
      refine Or.inl ⟨c, v, (readLines s.limit ending more).records, ?_, hm, bytes, value, ?_, ?_⟩
      · rw [hreading]
      · rw [Stream.err, state]
      · refine ⟨by simp [Stream.isOpen, state, hclosed], hlim ▸ h.counts, rest, ending, hrest, ?_⟩
        rw [hlim, left.lines_eq hs hrest, hreading]
  | false =>
    -- no record: the session ends with what stands at the front
    rw [hm] at hsought
    rw [← advance_of_open h.isOpen] at hm hclosed hsought
    refine Or.inr ?_
    cases hsought with
    | failed next state record eventsRead =>
      rw [hclosed] at state
      rw [lines, ← hend, readLines_of_next_failed next]
      refine ⟨rfl, hm, record, ?_, by simp [Stream.isOpen, state]⟩
      rw [Stream.err, state]
      rfl
    | ended next state record eventsRead =>
      rw [lines, ← hend, readLines_of_next_nothing next]
      refine ⟨rfl, hm, record, ?_, by simp [Stream.isOpen, state]⟩
      rw [Stream.err, state]

/-- A session finds the records of the reading before it, and ends as the reading ends. -/
lemma Faces.drain {s : Session ρ} {r : Reading ρ} (h : s.Faces r) :
    s.drain.1 = r.records ∧ s.drain.2.stream.err = r.failure := by
  fun_induction Session.drain s generalizing r with
  | case1 s t ht records last hdrain ih =>
    rcases h.advance with ⟨line, value, more, hrecords, hfinds⟩ | ⟨-, hstops⟩
    · obtain ⟨-, hbytes, hvalue, -, hfaces⟩ := hfinds
      rw [ht] at hbytes hvalue hfaces
      obtain ⟨h₁, h₂⟩ := ih hfaces
      rw [hdrain] at h₁ h₂
      rw [hrecords, hbytes, hvalue]
      exact ⟨congrArg _ h₁, h₂⟩
    · have hnothing := hstops.nothing
      rw [ht] at hnothing
      cases hnothing
  | case2 s t ht =>
    rcases h.advance with ⟨line, value, more, -, hfinds⟩ | ⟨hrecords, hstops⟩
    · have hfound := hfinds.found
      rw [ht] at hfound
      cases hfound
    · have herr := hstops.err
      rw [ht] at herr
      exact ⟨hrecords.symm, herr⟩

/-- **The records that are left.** An open session over a source that delivers its data once finds
the records that its lines hold, and ends as they do. -/
theorem drain_lines {s : Session ρ} {log : Bytes} {ending : SourceEnd}
    (hopen : s.stream.isOpen) (hl : s.limit + 2 ≤ 0xFFFFFFFFFFFFFFFF)
    (hs : s.script.Delivers log ending) :
    s.drain.1 = (readLines s.limit ending s.lines).records ∧
      s.drain.2.stream.err = (readLines (ρ := ρ) s.limit ending s.lines).failure := by
  have hfaces : s.Faces (readLines s.limit ending s.lines) := ⟨hopen, hl, log, ending, hs, rfl⟩
  exact hfaces.drain

/-- The lines of a session at its beginning are those of the log that its source delivers. -/
lemma lines_new (limits : Limits) (closer : Option Closer) {script : Script} {log : Bytes}
    {ending : SourceEnd} (h : script.Delivers log ending) :
    (Session.new limits closer script : Session ρ).lines =
      Log.lines limits.maxLine ending log := by
  obtain ⟨ha, he⟩ := h.ahead_eq
  subst ha he
  rfl

lemma faces_new {limits : Limits} (closer : Option Closer) {script : Script} {log : Bytes}
    {ending : SourceEnd} (hl : limits.maxLine ≤ 0xFFFFFFFFFFFFFFFD)
    (h : script.Delivers log ending) :
    (Session.new limits closer script : Session ρ).Faces (Log.read limits.maxLine ending log) := by
  refine ⟨rfl, ?_, log, ending, h, ?_⟩
  · show limits.maxLine + 2 ≤ 0xFFFFFFFFFFFFFFFF
    omega
  · rw [lines_new limits closer h]
    rfl

/-- **A stream reads what the log says.** Whatever the limits, the pieces in which the source hands
out the log and the interrupted reads between them, the records of the stream, each with its line,
are those of the plain reading of the whole log, and the stream ends with the same failure or, like
it, with none. -/
theorem drain_new_eq_read (limits : Limits) (closer : Option Closer) {script : Script} {log : Bytes}
    {ending : SourceEnd} (hl : limits.maxLine ≤ 0xFFFFFFFFFFFFFFFD)
    (h : script.Delivers log ending) :
    (Session.new limits closer script : Session ρ).drain.1 =
        (Log.read limits.maxLine ending log).records ∧
      (Session.new limits closer script : Session ρ).drain.2.stream.err =
        (Log.read (ρ := ρ) limits.maxLine ending log).failure := by
  have hd := drain_lines (s := (Session.new limits closer script : Session ρ)) rfl
    (by simp only [limit, Session.new, Stream.new, Feed.new]; omega) h
  rw [lines_new limits closer h] at hd
  exact hd

/-- A log with a blank line, cut within a record and between a carriage return and its line feed,
whose source is interrupted once and fails within the second record. -/
theorem drain_new_eq_read_pieces :
    let log := utf8 "\r\n\x7b\"message\":\"a\"\x7d\r\n\x7b"
    let gone : IoError := ⟨.connectionReset, "gone"⟩
    let script : Script := [.data (log.take 7), .fail ⟨.interrupted, "again"⟩,
      .data ((log.drop 7).take 11), .data (log.drop 18), .fail gone]
    15 ≤ 0xFFFFFFFFFFFFFFFD ∧ script.Delivers log (.failed gone) ∧
      (Session.new ⟨15, 3⟩ none script : Session ErrorEvent).drain.1 =
        [(utf8 "\x7b\"message\":\"a\"\x7d", ⟨"a"⟩)] ∧
      (Session.new ⟨15, 3⟩ none script : Session ErrorEvent).drain.2.stream.err =
        some (.read gone) := by
  intro log gone script
  have hd : script.Delivers log (.failed gone) :=
    .data (log.take 7) (.interrupted rfl (.data ((log.drop 7).take 11)
      (.data (log.drop 18) (.failed [] (by decide)))))
  obtain ⟨h₁, h₂⟩ := drain_new_eq_read (ρ := ErrorEvent) ⟨15, 3⟩ none (by decide) hd
  refine ⟨by decide, hd, h₁.trans ?_, h₂.trans ?_⟩
  · decide +kernel
  · decide +kernel

end Session

end EventLog
