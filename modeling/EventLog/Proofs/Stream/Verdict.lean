import EventLog.Proofs.Stream.Closing
import EventLog.Proofs.Stream.Quiet
import EventLog.Proofs.Stream.UntilEnd

/-!
# What a search comes to, and whether it counts

What a stream makes of a line is a verdict that goes by the line alone (`Feed.verdict`); only
whether a failure counts depends on the closings so far (`Stream.obey`). A search over a source that
leaves the stream alone therefore ends with the same verdict as the search over the source itself
(`Session.seek_concludes`), and shows the failure that there is, whether or not it counts
(`Session.trouble`).

* `Session.advance_tells`: one search and what it tells.
* `Session.runs_out_iff`: a search runs out of lines exactly if there are none.
* `Session.trouble_eq_some_iff`: the failure is the one that the pending bytes make.
-/

namespace EventLog

open Ascii Log

variable {ρ : Type}

/-- What a stream makes of a line. -/
inductive Verdict (ρ : Type)
  /-- The line is empty. -/
  | blank
  /-- The line holds a record. -/
  | record (value : ρ)
  /-- There is no line. -/
  | exhausted
  /-- There is a failure. -/
  | failure (e : Failure)

/-- Whether there is another record, unless the verdict leaves it open. -/
def Verdict.answer : Verdict ρ → Option Bool
  | .blank => none
  | .record _ => some true
  | .exhausted => some false
  | .failure _ => some false

/-- The failure of a verdict, if it is one. -/
def Verdict.failure? : Verdict ρ → Option Failure
  | .failure e => some e
  | _ => none

/-- The verdict on what a feed has found. -/
def Feed.verdict [LogRecord ρ] (f : Feed) : Find → Verdict ρ
  | .line =>
    if f.line.bytes = [] then .blank
    else
      match LogRecord.decode f.line.bytes with
      | .ok value => .record value
      | .error e => .failure (.decode e)
  | .tooLong => .failure (.lineTooLong f.limits.maxLine)
  | .ended => .exhausted
  | .failed e => .failure (.read e)

lemma Feed.verdict_eq_exhausted [LogRecord ρ] {f : Feed} {found : Find} :
    (f.verdict found : Verdict ρ) = .exhausted ↔ found = .ended := by
  cases found with
  | line =>
    refine iff_of_false ?_ nofun
    rw [Feed.verdict]
    split
    · nofun
    · split <;> nofun
  | tooLong => exact iff_of_false nofun nofun
  | ended => exact iff_of_true rfl rfl
  | failed e => exact iff_of_false nofun nofun

namespace Stream

/-- The stream after a verdict. -/
def obey (s : Stream ρ) : Verdict ρ → Stream ρ
  | .blank => s
  | .record value => { s with record := value, eventsRead := s.eventsRead + 1 }
  | .exhausted => s.exhaust
  | .failure e => s.fail e

/-- A stream goes by the verdict on what its feed has found. -/
lemma settle_eq [LogRecord ρ] (s : Stream ρ) (found : Find) :
    s.settle found =
      ((s.feed.verdict found : Verdict ρ).answer, s.obey (s.feed.verdict found)) := by
  cases found with
  | line =>
    by_cases h0 : s.bytes = []
    · have hverdict : (s.feed.verdict .line : Verdict ρ) = .blank := if_pos h0
      rw [settle_blank h0, hverdict]
      rfl
    · cases hd : LogRecord.decode (ρ := ρ) s.bytes with
      | ok value =>
        have hverdict : s.feed.verdict .line = .record value := by
          simp only [bytes] at h0 hd
          simp only [Feed.verdict, if_neg h0, hd]
        simp only [settle, if_neg h0, decodeLine, hd, hverdict]
        rfl
      | error e =>
        have hverdict : (s.feed.verdict .line : Verdict ρ) = .failure (.decode e) := by
          simp only [bytes] at h0 hd
          simp only [Feed.verdict, if_neg h0, hd]
        simp only [settle, if_neg h0, decodeLine, hd, hverdict]
        rfl
  | _ => rfl

lemma closed_obey (s : Stream ρ) (v : Verdict ρ) : (s.obey v).closed = s.closed := by
  cases v with
  | failure e => rw [obey, fail_eq]
  | _ => rfl

/-- A stream that has not been closed shows the failure of a verdict. -/
lemma err_obey {s : Stream ρ} (hstate : s.state = .running) (hclosed : s.closed = false)
    (v : Verdict ρ) : (s.obey v).err = v.failure? := by
  cases v with
  | failure e =>
    rw [obey, fail_eq, hclosed]
    rfl
  | exhausted => rfl
  | _ => simp [obey, err, hstate, Verdict.failure?]

/-! ### What a stream tells of its end -/

/-- What a stream has told apart from its close calls, the first notice first. -/
def endNotices (s : Stream ρ) : List Notice := s.notices.filter (· ≠ .closing)

lemma endNotices_after (s : Stream ρ) (e : Effect) :
    (s.after e).endNotices = s.endNotices ++ (noticeOf e).toList.filter (· ≠ .closing) := by
  have hcons : (e :: s.history).filterMap noticeOf =
      (noticeOf e).toList ++ s.history.filterMap noticeOf := by
    rw [List.filterMap_cons]
    cases noticeOf e <;> rfl
  have hreverse : (noticeOf e).toList.reverse = (noticeOf e).toList := by
    cases noticeOf e <;> rfl
  rw [endNotices, endNotices, notices, notices, after, hcons, List.reverse_append, hreverse,
    List.filter_append]

lemma endNotices_exhaust (s : Stream ρ) :
    s.exhaust.endNotices = s.endNotices ++ [.exhausted s.eventsRead] :=
  s.endNotices_after (.notice (.exhausted s.eventsRead))

/-- A failure is told as one that counts or as one that does not. -/
lemma endNotices_fail (s : Stream ρ) (e : Failure) :
    (s.fail e).endNotices =
      s.endNotices ++ [if s.closed then .ignored e else .failed e s.eventsRead] := by
  unfold fail
  split
  · exact s.endNotices_after (.notice (.ignored e))
  · exact s.endNotices_after (.notice (.failed e s.eventsRead))

/-- From the stream `s` to the stream `u` there have been reads, closings and empty lines, and no
more. -/
structure Calm (s u : Stream ρ) : Prop where
  state : u.state = s.state
  eventsRead : u.eventsRead = s.eventsRead
  endNotices : u.endNotices = s.endNotices

namespace Calm

variable {s t u : Stream ρ}

lemma refl (s : Stream ρ) : s.Calm s := ⟨rfl, rfl, rfl⟩

lemma trans (h : s.Calm t) (h' : t.Calm u) : s.Calm u :=
  ⟨h'.state.trans h.state, h'.eventsRead.trans h.eventsRead, h'.endNotices.trans h.endNotices⟩

lemma close (s : Stream ρ) : s.Calm s.close.2 := by
  have h := AfterClosings.close s
  refine ⟨h.state, h.eventsRead, ?_⟩
  unfold Stream.close
  split
  · rfl
  · simp [Stream.endNotices, notices, after, List.filterMap_cons, noticeOf]

lemma closeTimes (s : Stream ρ) (n : ℕ) : s.Calm (s.closeTimes n) := by
  induction n generalizing s with
  | zero => exact refl s
  | succ n ih => exact (close s).trans (ih s.close.2)

lemma afterRead (s : Stream ρ) (r : Read) : s.Calm (s.afterRead r) := by
  have h := closeTimes s r.closings
  refine ⟨h.state, h.eventsRead, ?_⟩
  rw [Stream.afterRead, endNotices_after, h.endNotices]
  exact List.append_nil _

lemma afterReads (s : Stream ρ) (reads : List Read) : s.Calm (reads.foldl Stream.afterRead s) := by
  induction reads generalizing s with
  | nil => exact refl s
  | cons r reads ih => exact (afterRead s r).trans (ih (s.afterRead r))

lemma afterSearch (s : Stream ρ) (r : Feed.Search) : s.Calm (s.afterSearch r) := by
  obtain ⟨hstate, hread, hnotices⟩ := afterReads s r.reads
  exact ⟨hstate, hread, hnotices⟩

end Calm

end Stream

namespace Session

variable [LogRecord ρ]

/-! ### One verdict for a session and its quiet twin -/

/-- The verdict on the next line. -/
def verdict (s : Session ρ) : Verdict ρ := s.search.feed.verdict s.search.find

lemma step_verdict (s : Session ρ) :
    s.step = (s.verdict.answer, ⟨s.searched.obey s.verdict, s.search.rest⟩) := by
  rw [step_eq, Stream.settle_eq]
  rfl

/-- A search ends with this verdict, this answer and this session. -/
structure Concludes (s : Session ρ) (v : Verdict ρ) (more : Bool) (t : Session ρ) : Prop where
  answer : v.answer = some more
  stream : ∃ u : Stream ρ, s.stream.Calm u ∧ t.stream = u.obey v
  exhausted : v = .exhausted ↔ s.script.ending = .endOfData ∧ s.lines = []

/-- A line that settles the search is not empty. -/
lemma bytes_ne_nil_of_find {s t : Session ρ} {more : Bool} (h : s.step = (some more, t))
    (hfind : s.search.find = .line ∨ s.search.find = .tooLong) :
    s.search.feed.line.bytes ≠ [] := by
  rcases hfind with hline | hlong
  · intro hnil
    have hblank : s.verdict = .blank := by
      rw [verdict, hline]
      exact if_pos hnil
    have hanswer := congrArg Prod.fst h
    rw [step_verdict, hblank] at hanswer
    cases hanswer
  · have hlength := (Feed.next_line s.stream.feed s.script).2.2 hlong
    exact List.ne_nil_of_length_pos (Nat.lt_of_le_of_lt (Nat.zero_le _) hlength)

/-- If a line settles the search, the search runs out of lines exactly if there are none. -/
lemma verdict_exhausted_iff {s t : Session ρ} {more : Bool} (h : s.step = (some more, t)) :
    s.verdict = .exhausted ↔ s.script.ending = .endOfData ∧ s.lines = [] := by
  have hblank := step_blank h
  rw [bytes_of_step h] at hblank
  have hfound : s.verdict = .exhausted ↔ s.search.find = .ended := Feed.verdict_eq_exhausted
  rw [hfound]
  rcases Feed.next_cases s.stream.feed s.script with
    hfind | ⟨hfind, hend, hbytes⟩ | ⟨e, hfind, hend⟩
  · have hbytes := bytes_ne_nil_of_find h hfind
    refine iff_of_false ?_ ?_
    · rw [search]
      rcases hfind with hfind | hfind <;> simp [hfind]
    · rintro ⟨hend, hlines⟩
      rw [lines, hend] at hlines
      exact hbytes (hblank.2 hlines)
  · refine iff_of_true hfind ⟨hend, ?_⟩
    rw [lines, hend]
    exact hblank.1 hbytes
  · refine iff_of_false ?_ ?_
    · simp [search, hfind]
    · simp [hend]

lemma concludes_of_step {s t : Session ρ} {more : Bool} (h : s.step = (some more, t)) :
    s.Concludes s.verdict more t := by
  have hexhausted := verdict_exhausted_iff h
  rw [step_verdict] at h
  obtain ⟨hanswer, rfl⟩ := Prod.mk.inj h
  exact ⟨hanswer, ⟨s.searched, .afterSearch s.stream s.search, rfl⟩, hexhausted⟩

/-- Two sessions with the same feed, of which the second is not closed during its reads. -/
structure Twins (s t : Session ρ) : Prop where
  feed : t.stream.feed = s.stream.feed
  script : t.script = s.script.quiet

omit [LogRecord ρ] in
lemma Twins.search {s t : Session ρ} (h : s.Twins t) : s.search.Quiet t.search := by
  have hsearch : t.search = s.quiet.search := by
    rw [Session.search, Session.search, h.feed, h.script]
    rfl
  rw [hsearch]
  exact s.search_quiet

lemma Twins.verdict {s t : Session ρ} (h : s.Twins t) : t.verdict = s.verdict := by
  rw [Session.verdict, Session.verdict, h.search.feed, h.search.find]

lemma Twins.step {s t : Session ρ} (h : s.Twins t) :
    t.step.1 = s.step.1 ∧ s.step.2.Twins t.step.2 := by
  have hs : s.step = (s.step.1, s.step.2) := rfl
  have ht : t.step = (t.step.1, t.step.2) := rfl
  obtain ⟨hfeed, hscript⟩ := step_feed hs
  obtain ⟨hfeed', hscript'⟩ := step_feed ht
  refine ⟨?_, ?_, ?_⟩
  · rw [step_verdict, step_verdict, h.verdict]
  · rw [hfeed, hfeed', h.search.feed]
  · rw [hscript, hscript', h.search.rest]

/-- An empty line before it makes no difference to how a search concludes. -/
lemma Concludes.of_step {s t u : Session ρ} {v : Verdict ρ} {more : Bool} (h : s.step = (none, t))
    (hc : t.Concludes v more u) : s.Concludes v more u := by
  obtain ⟨w, hcalm, hstream⟩ := hc.stream
  have hlines : s.script.ending = .endOfData ∧ s.lines = [] ↔
      t.script.ending = .endOfData ∧ t.lines = [] := by
    obtain ⟨line, hfree, hchomp, hpending, hending, -⟩ := step_none h
    rw [lines, lines, hpending, lines_terminated hfree, if_pos hchomp, hending,
      (unchanged_of_step h).limit]
  refine ⟨hc.answer, ⟨w, ?_, hstream⟩, hc.exhausted.trans hlines.symm⟩
  rw [step_verdict] at h
  obtain ⟨hanswer, rfl⟩ := Prod.mk.inj h
  have hblank : s.verdict = .blank := by
    cases hv : s.verdict with
    | blank => rfl
    | _ => simp [hv, Verdict.answer] at hanswer
  have hsearched : s.stream.Calm (s.searched.obey s.verdict) := by
    rw [hblank]
    exact .afterSearch s.stream s.search
  exact hsearched.trans hcalm

/-- **Both searches end with the same verdict.** -/
theorem seek_concludes {s t : Session ρ} (h : s.Twins t) :
    ∃ v, s.Concludes v s.seek.1 s.seek.2 ∧ t.Concludes v t.seek.1 t.seek.2 := by
  fun_induction seek s generalizing t with
  | case1 s more u hu =>
    have hanswer := h.step.1
    rw [hu] at hanswer
    have ht : t.step = (some more, t.step.2) := Prod.ext hanswer rfl
    rw [seek_of_some ht]
    refine ⟨s.verdict, concludes_of_step hu, ?_⟩
    rw [← h.verdict]
    exact concludes_of_step ht
  | case2 s u hu ih =>
    obtain ⟨hanswer, htwins⟩ := h.step
    rw [hu] at hanswer htwins
    have ht : t.step = (none, t.step.2) := Prod.ext hanswer rfl
    obtain ⟨v, hs, hv⟩ := ih htwins
    rw [seek_of_none ht]
    exact ⟨v, hs.of_step hu, hv.of_step ht⟩

/-! ### The failure of a search, whether or not it counts -/

/-- The failure that the next search comes to: the one that it shows if nobody closes the stream
meanwhile. -/
def trouble (s : Session ρ) : Option Failure := s.quiet.advance.2.stream.err

/-- What the search of an open session tells of its end. -/
inductive Tells (s : Session ρ) : Notice → Prop
  /-- There are no more lines. -/
  | exhausted (trouble : s.trouble = none) (state : s.advance.2.stream.state = .exhausted) :
      Tells s (.exhausted s.stream.eventsRead)
  /-- There is a failure, and it counts. -/
  | failed {e : Failure} (trouble : s.trouble = some e) (closed : s.advance.2.stream.closed = false)
      (state : s.advance.2.stream.state = .failed e) : Tells s (.failed e s.stream.eventsRead)
  /-- There is a failure, but the stream has been closed. -/
  | ignored {e : Failure} (trouble : s.trouble = some e)
      (closed : s.advance.2.stream.closed = true)
      (state : s.advance.2.stream.state = .exhausted) : Tells s (.ignored e)

/-- The search of an open session goes on, without a word and without a failure. -/
structure GoesOn (s : Session ρ) : Prop where
  found : s.advance.1 = true
  trouble : s.trouble = none
  state : s.advance.2.stream.state = .running
  untold : s.advance.2.stream.endNotices = s.stream.endNotices

/-- The search of an open session ends it with this notice. -/
structure EndsWith (s : Session ρ) (n : Notice) : Prop where
  nothing : s.advance.1 = false
  tells : s.Tells n
  eventsRead : s.advance.2.stream.eventsRead = s.stream.eventsRead
  told : s.advance.2.stream.endNotices = s.stream.endNotices ++ [n]

omit [LogRecord ρ] in
lemma quiet_open {s : Session ρ} (h : s.stream.isOpen) : s.quiet.stream.isOpen := h

lemma quiet_unclosed {s : Session ρ} (h : s.stream.isOpen) :
    s.quiet.advance.2.stream.closed = false := by
  have hkept := s.quiet.advance_kept
  have hnone : s.quiet.script.closings = 0 := s.script.closings_quiet
  have hstart : s.quiet.stream.closed = false := (running_of_open h).2
  rw [hkept.closed, hnone, hstart]
  simp

/-- A verdict does not depend on closings; without them, its failure counts. -/
lemma trouble_of_concludes {s : Session ρ} {v : Verdict ρ} {more : Bool} (hopen : s.stream.isOpen)
    (h : s.quiet.Concludes v more s.quiet.advance.2) : s.trouble = v.failure? := by
  obtain ⟨u, hcalm, hstream⟩ := h.stream
  have hclosed : u.closed = false := by
    rw [← u.closed_obey v, ← hstream]
    exact quiet_unclosed hopen
  rw [trouble, hstream]
  exact Stream.err_obey (hcalm.state.trans (running_of_open hopen).1) hclosed v

/-- The search of an open session has a verdict, and its failure is the one that there is. -/
lemma advance_concludes {s : Session ρ} (hopen : s.stream.isOpen) :
    ∃ v, s.Concludes v s.advance.1 s.advance.2 ∧ s.trouble = v.failure? := by
  obtain ⟨v, hs, hquiet⟩ := seek_concludes (s := s) (t := s.quiet) ⟨rfl, rfl⟩
  rw [← advance_of_open hopen] at hs
  rw [← advance_of_open (quiet_open hopen)] at hquiet
  exact ⟨v, hs, trouble_of_concludes hopen hquiet⟩

/-- A failure ends a session with a notice that goes by the mark. -/
lemma endsWith_of_failure {s : Session ρ} {u : Stream ρ} {e : Failure} (hcalm : s.stream.Calm u)
    (hnothing : s.advance.1 = false) (hstream : s.advance.2.stream = u.fail e)
    (htrouble : s.trouble = some e) : ∃ n, s.EndsWith n := by
  have htold : s.advance.2.stream.endNotices = s.stream.endNotices ++
      [if u.closed then .ignored e else .failed e s.stream.eventsRead] := by
    rw [hstream, Stream.endNotices_fail, hcalm.endNotices, hcalm.eventsRead]
  rw [Stream.fail_eq] at hstream
  refine ⟨_, hnothing, ?_, ?_, htold⟩
  · cases hclosed : u.closed with
    | true =>
      refine .ignored htrouble ?_ ?_
      · rw [hstream]
        exact hclosed
      · rw [hstream, hclosed]
        rfl
    | false =>
      refine .failed htrouble ?_ ?_
      · rw [hstream]
        exact hclosed
      · rw [hstream, hclosed]
        rfl
  · rw [hstream]
    exact hcalm.eventsRead

/-- **One search.** It goes on without a word, or it ends the session with one notice. -/
theorem advance_tells {s : Session ρ} (hopen : s.stream.isOpen) :
    s.GoesOn ∨ ∃ n, s.EndsWith n := by
  obtain ⟨v, hs, htrouble⟩ := advance_concludes hopen
  obtain ⟨u, hcalm, hstream⟩ := hs.stream
  have hanswer := hs.answer
  cases v with
  | blank => cases hanswer
  | record value =>
    refine Or.inl ⟨(Option.some.inj hanswer).symm, htrouble, ?_, ?_⟩
    · rw [hstream]
      exact hcalm.state.trans (running_of_open hopen).1
    · rw [hstream]
      exact hcalm.endNotices
  | exhausted =>
    refine Or.inr ⟨_, (Option.some.inj hanswer).symm, .exhausted htrouble ?_, ?_, ?_⟩
    · rw [hstream]
      rfl
    · rw [hstream]
      exact hcalm.eventsRead
    · rw [hstream, Stream.obey, Stream.endNotices_exhaust, hcalm.endNotices, hcalm.eventsRead]
  | failure e =>
    exact Or.inr (endsWith_of_failure hcalm (Option.some.inj hanswer).symm hstream htrouble)

/-! ### Which verdict it is -/

/-- **Running out of lines.** An open session finds no record and no failure exactly if its source
has nothing ahead of the end of its data that makes a line. -/
theorem runs_out_iff {s : Session ρ} (hopen : s.stream.isOpen) :
    s.advance.1 = false ∧ s.trouble = none ↔ s.script.ending = .endOfData ∧ s.lines = [] := by
  obtain ⟨v, hs, htrouble⟩ := advance_concludes hopen
  have hanswer := hs.answer
  rw [← hs.exhausted, htrouble]
  cases v with
  | blank => cases hanswer
  | record value =>
    refine iff_of_false ?_ nofun
    rw [← Option.some.inj hanswer]
    exact fun h => nomatch h.1
  | exhausted => exact iff_of_true ⟨(Option.some.inj hanswer).symm, rfl⟩ rfl
  | failure e => exact iff_of_false (fun h => nomatch h.2) nofun

/-- **Running into a failure.** The failure that a search comes to, whether or not it counts, is the
one that stands at the front of the pending bytes. -/
theorem trouble_eq_some_iff {s : Session ρ} {e : Failure} (hopen : s.stream.isOpen)
    (hc : Feed.Counts s.stream.feed.limits s.pending) :
    s.trouble = some e ↔ s.next = .failed e := by
  obtain ⟨hahead, hending⟩ := s.script.ahead_quiet
  have hpending : s.quiet.pending = s.pending := by
    rw [pending, pending, Feed.pending, Feed.pending, quiet, hahead]
  have hnext : s.quiet.next = s.next := by
    rw [next, next, hpending, quiet, hending]
    rfl
  have hcounts : Feed.Counts s.quiet.stream.feed.limits s.quiet.pending := by
    rw [hpending]
    exact hc
  have hunclosed := quiet_unclosed hopen
  rw [← hnext]
  constructor
  · intro htrouble
    have hsought := seek_sought hcounts
    rw [← advance_of_open (quiet_open hopen)] at hsought
    rw [trouble, Stream.err] at htrouble
    cases hm : s.quiet.advance.1 with
    | true =>
      rw [hm] at hsought
      cases hsought with
      | record lines judge bytes value eventsRead state =>
        have hrunning : s.quiet.stream.state = .running := (running_of_open hopen).1
        rw [state, hrunning] at htrouble
        cases htrouble
    | false =>
      rw [hm] at hsought
      cases hsought with
      | failed next state =>
        rw [state, hunclosed] at htrouble
        cases htrouble
        exact next
      | ended next state =>
        rw [state] at htrouble
        cases htrouble
  · intro hfailed
    obtain ⟨-, hstate⟩ := failed_of_next (quiet_open hopen) hcounts hfailed hunclosed
    rw [trouble, Stream.err, hstate]

end Session

end EventLog
