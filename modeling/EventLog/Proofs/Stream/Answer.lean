import EventLog.Proofs.Stream.Run

/-!
# What a search leaves behind

What a stream shows after a search hangs together, whatever the source has done in the meantime. The
line, the record and the answer belong to each other (`Session.Answered`), and a failure is borne
out by the line that was looked at last (`Stream.Explains`).

* `Session.seek_answered`: what a search comes to.
* `Session.seek_line`: what it leaves of the line.
* `Session.advance_false`: a search that finds nothing ends the stream.
-/

namespace EventLog

open Ascii

variable {ρ : Type}

namespace Stream

/-- The line that was looked at last bears out a failure. -/
inductive Explains [LogRecord ρ] (s : Stream ρ) : Failure → Prop
  /-- The line is within the limit and makes no record. -/
  | decode {e : Json.Error} (content : s.bytes ≠ [])
      (within : s.bytes.length ≤ s.feed.limits.maxLine)
      (fault : LogRecord.decode (ρ := ρ) s.bytes = .error e) : Explains s (.decode e)
  /-- The line exceeds the limit. -/
  | lineTooLong (long : s.feed.limits.maxLine < s.bytes.length) :
      Explains s (.lineTooLong s.feed.limits.maxLine)
  /-- It does not depend on the line. -/
  | read (e : IoError) : Explains s (.read e)

/-- A failure goes by the line and the limits alone. -/
lemma Explains.of_feed [LogRecord ρ] {s t : Stream ρ} {e : Failure} (h : s.Explains e)
    (hf : t.feed = s.feed) : t.Explains e := by
  have hb : t.bytes = s.bytes := congrArg (fun f : Feed => f.line.bytes) hf
  cases h with
  | decode content within fault =>
    exact .decode (hb ▸ content) (hb ▸ hf ▸ within) (hb ▸ fault)
  | lineTooLong long =>
    rw [← hf] at long ⊢
    exact .lineTooLong (hb ▸ long)
  | read e => exact .read e

/-- The stream `t` is the stream `s` after it has ended, perhaps with a failure. -/
structure Ends [LogRecord ρ] (s t : Stream ρ) : Prop where
  feed : t.feed = s.feed
  record : t.record = s.record
  eventsRead : t.eventsRead = s.eventsRead
  state : t.state = .exhausted ∨ ∃ e, t.state = .failed e ∧ s.Explains e

lemma ends_fail [LogRecord ρ] {s : Stream ρ} {e : Failure} (h : s.Explains e) :
    s.Ends (s.fail e) := by
  rw [fail_eq]
  refine ⟨rfl, rfl, rfl, ?_⟩
  cases s.closed with
  | true => exact Or.inl rfl
  | false => exact Or.inr ⟨e, rfl, h⟩

lemma ends_exhaust [LogRecord ρ] (s : Stream ρ) : s.Ends s.exhaust :=
  ⟨rfl, rfl, rfl, Or.inl rfl⟩

end Stream

namespace Session

variable [LogRecord ρ]

/-- What a session shows after a search with the given answer. -/
inductive Answered (s : Session ρ) : Bool → Session ρ → Prop
  /-- The line makes the record, which is one more. -/
  | record {t : Session ρ} (content : t.stream.bytes ≠ [])
      (within : t.stream.bytes.length ≤ s.limit)
      (decoded : LogRecord.decode t.stream.bytes = .ok t.stream.record)
      (eventsRead : t.stream.eventsRead = s.stream.eventsRead + 1)
      (state : t.stream.state = s.stream.state) : Answered s true t
  /-- The stream has ended with the record that it had. -/
  | ended {t : Session ρ} (record : t.stream.record = s.stream.record)
      (eventsRead : t.stream.eventsRead = s.stream.eventsRead)
      (state : t.stream.state = .exhausted ∨ ∃ e, t.stream.state = .failed e ∧ t.stream.Explains e) :
      Answered s false t

/-- What a session shows of an empty line is the line alone. -/
structure Unchanged (s t : Session ρ) : Prop where
  empty : t.stream.bytes = []
  limit : t.limit = s.limit
  record : t.stream.record = s.stream.record
  eventsRead : t.stream.eventsRead = s.stream.eventsRead
  state : t.stream.state = s.stream.state

/-- Empty lines before it make no difference to what a search comes to. -/
lemma Answered.of_unchanged {s t u : Session ρ} {more : Bool} (hu : s.Unchanged t)
    (h : t.Answered more u) : s.Answered more u := by
  cases h with
  | record content within decoded eventsRead state =>
    exact .record content (hu.limit ▸ within) decoded (hu.eventsRead ▸ eventsRead)
      (state.trans hu.state)
  | ended record eventsRead state =>
    exact .ended (record.trans hu.record) (eventsRead.trans hu.eventsRead) state

lemma Answered.not_open {s t : Session ρ} (h : s.Answered false t) : ¬ t.stream.isOpen := by
  cases h with
  | ended record eventsRead state =>
    rcases state with hstate | ⟨e, hstate, -⟩
    · simp [Stream.isOpen, hstate]
    · simp [Stream.isOpen, hstate]

lemma Answered.of_ends {s : Session ρ} {t : Stream ρ} (h : s.searched.Ends t) :
    s.Answered false ⟨t, s.search.rest⟩ := by
  have hs := s.searched_closings
  refine .ended (h.record.trans hs.record) (h.eventsRead.trans hs.eventsRead) ?_
  rcases h.state with hstate | ⟨e, hstate, he⟩
  · exact Or.inl hstate
  · exact Or.inr ⟨e, hstate, he.of_feed h.feed⟩

omit [LogRecord ρ] in
lemma searched_limits (s : Session ρ) :
    s.searched.feed.limits.maxLine = s.limit :=
  congrArg Limits.maxLine (Feed.next_limits s.stream.feed s.script)

/-- **One line.** It is empty, or it settles what the session shows. -/
lemma step_answered (s : Session ρ) :
    (s.step.1 = none ∧ s.Unchanged s.step.2) ∨
      ∃ more, s.step.1 = some more ∧ s.Answered more s.step.2 := by
  have hs := s.searched_closings
  have hlim := s.searched_limits
  obtain ⟨-, hshort, hlong⟩ := Feed.next_line s.stream.feed s.script
  rw [step_eq]
  cases hfind : s.search.find with
  | line =>
    have hwithin : s.searched.bytes.length ≤ s.limit := hshort hfind
    by_cases h0 : s.searched.bytes = []
    · rw [Stream.settle_blank h0]
      exact Or.inl ⟨rfl, h0, hlim, hs.record, hs.eventsRead, hs.state⟩
    · refine Or.inr ?_
      cases hd : LogRecord.decode (ρ := ρ) s.searched.bytes with
      | ok v =>
        refine ⟨true, ?_⟩
        simp only [Stream.settle, if_neg h0, Stream.decodeLine, hd]
        exact ⟨trivial, .record h0 hwithin hd (congrArg (· + 1) hs.eventsRead) hs.state⟩
      | error e =>
        refine ⟨false, ?_⟩
        simp only [Stream.settle, if_neg h0, Stream.decodeLine, hd]
        exact ⟨trivial, .of_ends (Stream.ends_fail (.decode h0 (hlim ▸ hwithin) hd))⟩
  | tooLong =>
    have hover : s.limit < s.searched.bytes.length := hlong hfind
    exact Or.inr ⟨false, rfl, .of_ends (Stream.ends_fail (.lineTooLong (hlim ▸ hover)))⟩
  | ended => exact Or.inr ⟨false, rfl, .of_ends (Stream.ends_exhaust _)⟩
  | failed e => exact Or.inr ⟨false, rfl, .of_ends (Stream.ends_fail (.read e))⟩

/-- A step that answers shows what it should. -/
lemma answered_of_step {s t : Session ρ} {more : Bool} (h : s.step = (some more, t)) :
    s.Answered more t := by
  rcases s.step_answered with ⟨hnone, -⟩ | ⟨more', hsome, hanswered⟩
  · rw [h] at hnone
    cases hnone
  · rw [h] at hsome hanswered
    obtain rfl := Option.some.inj hsome
    exact hanswered

/-- A step that does not answer has met an empty line. -/
lemma unchanged_of_step {s t : Session ρ} (h : s.step = (none, t)) : s.Unchanged t := by
  rcases s.step_answered with ⟨-, hu⟩ | ⟨more, hsome, -⟩
  · rw [h] at hu
    exact hu
  · rw [h] at hsome
    cases hsome

/-- **What a search comes to.** -/
theorem seek_answered (s : Session ρ) : s.Answered s.seek.1 s.seek.2 := by
  fun_induction seek s with
  | case1 s more t ht => exact answered_of_step ht
  | case2 s t ht ih => exact ih.of_unchanged (unchanged_of_step ht)

lemma answered_of_seek {s : Session ρ} {more : Bool} (h : s.seek.1 = more) :
    s.Answered more s.seek.2 :=
  h ▸ s.seek_answered

lemma step_feed {s t : Session ρ} {more : Option Bool} (h : s.step = (more, t)) :
    t.stream.feed = s.search.feed ∧ t.script = s.search.rest := by
  obtain rfl : s.step.2 = t := congrArg Prod.snd h
  rw [step_eq, Stream.settle_feed]
  exact ⟨rfl, rfl⟩

lemma bytes_of_step {s t : Session ρ} {more : Option Bool} (h : s.step = (more, t)) :
    t.stream.bytes = s.search.feed.line.bytes := by
  rw [Stream.bytes, (step_feed h).1]

lemma pending_of_step {s t : Session ρ} {more : Option Bool} (h : s.step = (more, t)) :
    t.pending = s.search.feed.pending s.search.rest := by
  obtain ⟨hfeed, hscript⟩ := step_feed h
  rw [pending, hfeed, hscript]

lemma seek_line (s : Session ρ) :
    lineFeed ∉ s.seek.2.stream.bytes ∧ s.seek.2.stream.bytes.length ≤ s.limit + 2 := by
  fun_induction seek s with
  | case1 s more t ht =>
    have hlen := Feed.length_next_le s.stream.feed s.script
    have hwindow := Feed.window_le s.stream.feed.limits
    rw [bytes_of_step ht]
    exact ⟨(Feed.next_line s.stream.feed s.script).1, Nat.le_trans hlen hwindow⟩
  | case2 s t ht ih =>
    rw [(unchanged_of_step ht).limit] at ih
    exact ih

/-- The line is a part of what the session could get hold of. -/
lemma seek_bytes (s : Session ρ) : s.seek.2.stream.bytes <:+: s.reach := by
  fun_induction seek s with
  | case1 s more t ht =>
    rw [bytes_of_step ht]
    exact (Feed.bytes_next s.stream.feed s.script).isInfix.trans (Feed.pending_infix_reach _ _)
  | case2 s t ht ih =>
    have h := s.step_reach
    rw [ht] at h
    exact ih.trans h.isInfix

lemma advance_false {s : Session ρ} (h : s.advance.1 = false) :
    ¬ s.advance.2.stream.isOpen := by
  by_cases hopen : s.stream.isOpen
  · rw [advance_of_open hopen] at h ⊢
    exact (answered_of_seek h).not_open
  · rw [advance_of_not_open hopen]
    exact hopen

end Session

end EventLog
