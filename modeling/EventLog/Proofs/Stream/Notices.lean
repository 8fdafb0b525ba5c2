import EventLog.Proofs.Stream.Calls
import EventLog.Proofs.Stream.Ended
import EventLog.Proofs.Stream.Verdict

/-!
# What a stream tells of itself

A stream with a closer tells of each close call, and every stream tells once of its end: that there
are no more lines, that it has failed, or that a failure does not count because it has been closed.
It tells nothing else, in whatever order it is advanced and closed.

* `Session.mem_endNotices_iff`: the one search that ends a run, and its notice.
* `Session.failsClosed_iff`: a failure that does not count is the one of the pending bytes.
* `Session.run_accounted`: all effects of a run.
-/

namespace EventLog

variable {ρ : Type}

/-- A notice as it is logged. -/
structure LogEntry where
  /-- How important it is. -/
  level : Level
  /-- Its words. -/
  message : String
  /-- Its fields. -/
  fields : List (String × FieldValue)
  deriving DecidableEq, Repr

namespace Notice

/-- The entry of a notice. -/
def entry (n : Notice) : LogEntry := ⟨n.level, n.message, n.fields⟩

variable {n : Notice} {values : List (String × FieldValue)}

lemma message_eq_closing : n.entry.message = "Closing event stream" ↔ n = .closing := by
  cases n <;> simp [entry, message]

lemma entry_eq_failed : n.entry = ⟨.warn, "Event stream failed", values⟩ ↔
    ∃ e k, n = .failed e k ∧ values = [("error", .text e.message), ("events", .count k)] := by
  cases n <;> simp [entry, level, message, fields, eq_comm]

lemma entry_eq_exhausted : n.entry = ⟨.trace, "Event stream exhausted", values⟩ ↔
    ∃ k, n = .exhausted k ∧ values = [("events", .count k)] := by
  cases n <;> simp [entry, level, message, fields, eq_comm]

lemma entry_eq_ignored :
    n.entry = ⟨.debug, "Ignoring error on closed event stream", values⟩ ↔
      ∃ e, n = .ignored e ∧ values = [("error", .text e.message)] := by
  cases n <;> simp [entry, level, message, fields, eq_comm]

end Notice

namespace Stream

/-- What a stream has logged, the first entry first. -/
def log (s : Stream ρ) : List LogEntry := s.notices.map Notice.entry

lemma filter_notices (s : Stream ρ) :
    s.notices.filter (· = .closing) = s.closingEffects.filterMap noticeOf := by
  rw [notices, closingEffects, List.filter_reverse, List.filterMap_reverse, List.filter_filterMap,
    List.filterMap_filter]
  congr 2
  funext e
  cases e with
  | notice n => cases n <;> rfl
  | _ => rfl

lemma log_closing (s : Stream ρ) :
    s.log.filter (·.message = "Closing event stream") =
      (s.notices.filter (· = .closing)).map Notice.entry := by
  rw [log, List.filter_map]
  congr 2
  funext n
  exact decide_eq_decide.2 Notice.message_eq_closing

lemma log_end (s : Stream ρ) :
    s.log.filter (·.message ≠ "Closing event stream") = s.endNotices.map Notice.entry := by
  rw [log, List.filter_map, endNotices]
  congr 2
  funext n
  exact decide_eq_decide.2 (not_congr Notice.message_eq_closing)

/-- An entry that is not of a close call tells of the end. -/
lemma mem_log_iff {s : Stream ρ} {x : LogEntry} (hx : x.message ≠ "Closing event stream") :
    x ∈ s.log ↔ ∃ n ∈ s.endNotices, n.entry = x := by
  have hfilter : x ∈ s.log ↔ x ∈ s.log.filter (·.message ≠ "Closing event stream") := by
    rw [List.mem_filter]
    exact (and_iff_left (decide_eq_true hx)).symm
  rw [hfilter, log_end, List.mem_map]

end Stream

namespace Session

variable [LogRecord ρ] {s : Session ρ} {ops before : List Operation} {n : Notice}

/-! ### The end of a run -/

/-- A session that has not ended and has told nothing of its end. -/
structure Untold (s : Session ρ) : Prop where
  state : s.stream.state = .running
  endNotices : s.stream.endNotices = []

/-- The search after the operations `before` ends the run, with the notice `n`. -/
structure EndsRun (s : Session ρ) (ops before : List Operation) (n : Notice) : Prop where
  place : ∃ later, ops = before ++ .advance :: later
  isOpen : (s.run before).stream.isOpen
  endsWith : (s.run before).EndsWith n

omit [LogRecord ρ] in
lemma endNotices_close (s : Session ρ) : s.close.2.stream.endNotices = s.stream.endNotices :=
  (Stream.Calm.close s.stream).endNotices

/-- One operation leaves the session untold, or it is the search that ends it. -/
lemma Untold.perform (h : s.Untold) (op : Operation) :
    (s.perform op).Untold ∨ (op = .advance ∧ s.stream.isOpen ∧ ∃ n, s.EndsWith n) := by
  cases op with
  | advance =>
    by_cases hopen : s.stream.isOpen
    · rcases advance_tells hopen with hgoes | hends
      · exact Or.inl ⟨hgoes.state, hgoes.untold.trans h.endNotices⟩
      · exact Or.inr ⟨rfl, hopen, hends⟩
    · rw [perform_advance_of_not_open hopen]
      exact Or.inl h
  | close =>
    exact Or.inl ⟨s.close_closings.state.trans h.state, s.endNotices_close.trans h.endNotices⟩

/-- A session that is still open has told nothing of its end. -/
lemma Untold.run_of_open (h : s.Untold) (hopen : (s.run ops).stream.isOpen) :
    (s.run ops).Untold := by
  induction ops using List.reverseRecOn with
  | nil => exact h
  | append_singleton ops op ih =>
    rw [run_concat] at hopen ⊢
    have hbefore : (s.run ops).stream.isOpen := by
      by_contra hn
      exact (perform_of_ended hn op).1 hopen
    rcases (ih hbefore).perform op with huntold | ⟨rfl, -, n, hends⟩
    · exact huntold
    · exact absurd hopen (advance_false hends.nothing)

/-- A run leaves the session untold, or one of its searches has ended it. -/
lemma Untold.run (h : s.Untold) (ops : List Operation) :
    (s.run ops).Untold ∨ ∃ before n, s.EndsRun ops before n := by
  induction ops using List.reverseRecOn with
  | nil => exact Or.inl h
  | append_singleton ops op ih =>
    rw [run_concat]
    rcases ih with huntold | ⟨before, n, ⟨later, rfl⟩, hopen, hends⟩
    · refine (huntold.perform op).imp_right ?_
      rintro ⟨rfl, hopen, n, hends⟩
      exact ⟨ops, n, ⟨[], rfl⟩, hopen, hends⟩
    · refine Or.inr ⟨before, n, ⟨later ++ [op], ?_⟩, hopen, hends⟩
      rw [List.append_assoc, List.cons_append]

/-- Nothing is told after the end. -/
lemma endNotices_run (h : ¬ s.stream.isOpen) (ops : List Operation) :
    (s.run ops).stream.endNotices = s.stream.endNotices := by
  induction ops using List.reverseRecOn with
  | nil => rfl
  | append_singleton ops op ih =>
    rw [run_concat, ← ih]
    cases op with
    | advance => rw [perform_advance_of_not_open (run_of_ended h ops).1]
    | close => exact endNotices_close _

/-- What is left of a run after the search that ends it. -/
lemma EndsRun.outcome (h : s.Untold) (he : s.EndsRun ops before n) :
    (s.run ops).stream.endNotices = [n] ∧
      (s.run ops).stream.eventsRead = (s.run before).stream.eventsRead ∧
      (s.run ops).stream.state = (s.run before).advance.2.stream.state := by
  obtain ⟨⟨later, rfl⟩, hopen, hends⟩ := he
  have hrun : s.run (before ++ .advance :: later) = ((s.run before).advance.2).run later := by
    rw [Session.run, List.foldl_append]
    rfl
  have hended := advance_false hends.nothing
  have hrests := run_rests hended later
  rw [hrun]
  refine ⟨?_, hrests.eventsRead.trans hends.eventsRead, hrests.state⟩
  rw [endNotices_run hended, hends.told, (h.run_of_open hopen).endNotices]
  rfl

/-- **The end of a run.** A stream tells of its end what the one search tells that ends it. -/
theorem mem_endNotices_iff (h : s.Untold) :
    n ∈ (s.run ops).stream.endNotices ↔ ∃ before, s.EndsRun ops before n := by
  constructor
  · intro hn
    rcases h.run ops with huntold | ⟨before, n', hends⟩
    · rw [huntold.endNotices] at hn
      cases hn
    · rw [(hends.outcome h).1, List.mem_singleton] at hn
      exact ⟨before, hn ▸ hends⟩
  · rintro ⟨before, hends⟩
    rw [(hends.outcome h).1]
    exact List.mem_singleton.2 rfl

lemma length_endNotices_le (h : s.Untold) (ops : List Operation) :
    (s.run ops).stream.endNotices.length ≤ 1 := by
  rcases h.run ops with huntold | ⟨before, n, hends⟩
  · rw [huntold.endNotices]
    exact Nat.zero_le 1
  · rw [(hends.outcome h).1]
    exact Nat.le_refl 1

/-! ### Which notice it is -/

/-- A failure is told exactly if the stream has it. -/
lemma failed_mem_iff (h : s.Untold) {e : Failure} {k : ℕ} :
    .failed e k ∈ (s.run ops).stream.endNotices ↔
      (s.run ops).stream.err = some e ∧ k = (s.run ops).stream.eventsRead := by
  constructor
  · intro hn
    obtain ⟨before, hends⟩ := (mem_endNotices_iff h).1 hn
    obtain ⟨-, hread, hstate⟩ := hends.outcome h
    cases hends.endsWith.tells with
    | failed trouble closed state =>
      refine ⟨?_, hread.symm⟩
      rw [Stream.err, hstate, state]
  · rintro ⟨herr, rfl⟩
    have hfailed : (s.run ops).stream.state = .failed e := by
      cases hstate : (s.run ops).stream.state with
      | failed e' =>
        rw [Stream.err, hstate] at herr
        rw [Option.some.inj herr]
      | _ => simp [Stream.err, hstate] at herr
    rcases h.run ops with huntold | ⟨before, n, hends⟩
    · rw [huntold.state] at hfailed
      cases hfailed
    · obtain ⟨hnotices, hread, hstate⟩ := hends.outcome h
      rw [hnotices, List.mem_singleton, hread]
      rw [hfailed] at hstate
      cases hends.endsWith.tells with
      | exhausted trouble state => cases hstate.trans state
      | failed trouble closed state => rw [State.failed.inj (hstate.trans state)]
      | ignored trouble closed state => cases hstate.trans state

/-- An advance of a run finds no further line, because its source is at the end of its data and no
bytes of a line are pending. -/
def RunsOut (s : Session ρ) (ops : List Operation) : Prop :=
  ∃ before later, ops = before ++ .advance :: later ∧ (s.run before).stream.isOpen ∧
    (s.run before).script.ending = .endOfData ∧ (s.run before).lines = []

/-- An advance of a run comes to a failure after the stream has been closed. -/
def FailsClosed (s : Session ρ) (ops : List Operation) (e : Failure) : Prop :=
  ∃ before later, ops = before ++ .advance :: later ∧ (s.run before).stream.isOpen ∧
    (s.run before).trouble = some e ∧ (s.run before).advance.2.stream.closed = true

/-- That there are no more lines is told exactly if that is so. -/
lemma exhausted_mem_iff (h : s.Untold) {k : ℕ} :
    .exhausted k ∈ (s.run ops).stream.endNotices ↔
      s.RunsOut ops ∧ k = (s.run ops).stream.eventsRead := by
  rw [mem_endNotices_iff h]
  constructor
  · rintro ⟨before, hends⟩
    obtain ⟨-, hread, -⟩ := hends.outcome h
    obtain ⟨later, hplace⟩ := hends.place
    cases hends.endsWith.tells with
    | exhausted trouble state =>
      have hout := (runs_out_iff hends.isOpen).1 ⟨hends.endsWith.nothing, trouble⟩
      exact ⟨⟨before, later, hplace, hends.isOpen, hout⟩, hread.symm⟩
  · rintro ⟨⟨before, later, hplace, hopen, hout⟩, rfl⟩
    obtain ⟨hnothing, htrouble⟩ := (runs_out_iff hopen).2 hout
    rcases advance_tells hopen with hgoes | ⟨n, hends⟩
    · exact absurd (hgoes.found.symm.trans hnothing) nofun
    · have hrun : s.EndsRun ops before n := ⟨⟨later, hplace⟩, hopen, hends⟩
      refine ⟨before, ?_⟩
      rw [(hrun.outcome h).2.1]
      cases hends.tells with
      | exhausted trouble state => exact hrun
      | failed trouble => exact absurd (htrouble.symm.trans trouble) nofun
      | ignored trouble => exact absurd (htrouble.symm.trans trouble) nofun

/-- That a failure does not count is told exactly if it comes after a closing. -/
lemma ignored_mem_iff (h : s.Untold) {e : Failure} :
    .ignored e ∈ (s.run ops).stream.endNotices ↔ s.FailsClosed ops e := by
  rw [mem_endNotices_iff h]
  constructor
  · rintro ⟨before, hends⟩
    obtain ⟨later, hplace⟩ := hends.place
    cases hends.endsWith.tells with
    | ignored trouble closed state => exact ⟨before, later, hplace, hends.isOpen, trouble, closed⟩
  · rintro ⟨before, later, hplace, hopen, htrouble, hclosed⟩
    rcases advance_tells hopen with hgoes | ⟨n, hends⟩
    · exact absurd (hgoes.trouble.symm.trans htrouble) nofun
    · refine ⟨before, ⟨later, hplace⟩, hopen, ?_⟩
      cases hends.tells with
      | exhausted trouble => exact absurd (trouble.symm.trans htrouble) nofun
      | failed trouble closed => exact absurd (closed.symm.trans hclosed) nofun
      | ignored trouble =>
        rw [Option.some.inj (htrouble.symm.trans trouble)]
        exact hends

/-- A failure that does not count is the one at the front of the bytes pending then. -/
lemma failsClosed_iff (hc : Feed.Counts s.stream.feed.limits s.reach) {e : Failure} :
    s.FailsClosed ops e ↔ ∃ before later, ops = before ++ .advance :: later ∧
      (s.run before).stream.isOpen ∧ (s.run before).next = .failed e ∧
        (s.run before).advance.2.stream.closed = true := by
  refine exists₂_congr fun before later => and_congr_right fun _ => and_congr_right fun hopen => ?_
  rw [trouble_eq_some_iff hopen (counts_run hc before)]

/-! ### The account of a run -/

/-- The close calls of a run of a stream with the closer `c`. -/
structure ClosingsAccounted (s : Session ρ) (c : Closer) (ops : List Operation) : Prop where
  /-- Each call comes back with what the closer comes back with. -/
  results : s.closeResults ops = (List.range (s.closeCalls ops)).map c
  /-- Each call sets the mark, gives notice and invokes the closer once, in this order, and nothing
  else does. -/
  effects : (s.run ops).stream.closingEffects =
    (List.range (s.closeCalls ops)).flatMap fun k => callEffects (c k)
  /-- There are as many invocations as calls. -/
  invocations : (s.run ops).stream.closings = s.closeCalls ops
  /-- There are as many entries in the log as calls. -/
  entries : (s.run ops).stream.log.filter (·.message = "Closing event stream") =
    List.replicate (s.closeCalls ops) ⟨.debug, "Closing event stream", []⟩
  /-- The stream counts as closed from the first call on. -/
  closed : (s.run ops).stream.closed = true ↔ 0 < s.closeCalls ops
  /-- It is never open again. -/
  forever : (s.run ops).stream.closed = true → ∀ later, (s.run (ops ++ later)).stream.closed = true

/-- What is logged of the end of a run. -/
structure EndAccounted (s : Session ρ) (ops : List Operation) : Prop where
  /-- Besides the close calls there is at most one entry. -/
  once : ((s.run ops).stream.log.filter (·.message ≠ "Closing event stream")).length ≤ 1
  /-- There is a failure in the log exactly if the stream has it, with its text and the number of
  records. -/
  failed : ∀ values, ⟨.warn, "Event stream failed", values⟩ ∈ (s.run ops).stream.log ↔
    ∃ e, (s.run ops).stream.err = some e ∧
      values = [("error", .text e.message), ("events", .count (s.run ops).stream.eventsRead)]
  /-- The log says that there are no more lines exactly if that is so, with the number of
  records. -/
  exhausted : ∀ values, ⟨.trace, "Event stream exhausted", values⟩ ∈ (s.run ops).stream.log ↔
    s.RunsOut ops ∧ values = [("events", .count (s.run ops).stream.eventsRead)]
  /-- There is a failure that does not count in the log exactly if it came after a closing, with its
  text. -/
  ignored : ∀ values,
    ⟨.debug, "Ignoring error on closed event stream", values⟩ ∈ (s.run ops).stream.log ↔
      ∃ e, s.FailsClosed ops e ∧ values = [("error", .text e.message)]
  /-- Such a failure is the one at the front of the bytes that are pending at that advance, if the
  bytes of a line can be counted. -/
  pending : Feed.Counts s.stream.feed.limits s.reach → ∀ e, s.FailsClosed ops e ↔
    ∃ before later, ops = before ++ .advance :: later ∧ (s.run before).stream.isOpen ∧
      (s.run before).next = .failed e ∧ (s.run before).advance.2.stream.closed = true

lemma new_closings (limits : Limits) (c : Closer) (script : Script) (ops : List Operation) :
    (Session.new limits (some c) script : Session ρ).ClosingsAccounted c ops := by
  set s : Session ρ := .new limits (some c) script with hs
  have hcalled := s.run_called ops
  have hresults : s.closeResults ops = (List.range (s.closeCalls ops)).map c := by
    have hanswered := hcalled.answered
    rw [length_closeResults] at hanswered
    rw [hanswered, List.range_eq_range']
    rfl
  have heffects : (s.run ops).stream.closingEffects =
      (List.range (s.closeCalls ops)).flatMap fun k => callEffects (c k) := by
    have h := hcalled.effects rfl
    rwa [hresults, List.flatMap_map] at h
  have hclosed : ∀ ops, (s.run ops).stream.closed = true ↔ 0 < s.closeCalls ops := by
    intro ops
    rw [s.run_closed ops]
    simp [hs, Session.new, Stream.new]
  refine ⟨hresults, heffects, ?_, ?_, hclosed ops, ?_⟩
  · have h := hcalled.closings rfl
    rw [length_closeResults] at h
    exact h.trans (Nat.zero_add _)
  · have hone : ∀ result, (callEffects result).filterMap Stream.noticeOf = [.closing] :=
      fun _ => rfl
    rw [Stream.log_closing, Stream.filter_notices, heffects, List.filterMap_flatMap]
    simp only [hone]
    rw [← List.map_eq_flatMap]
    simp [Notice.entry, Notice.level, Notice.message, Notice.fields]
  · intro h later
    exact (hclosed _).2 (Nat.lt_of_lt_of_le ((hclosed ops).1 h) (s.closeCalls_le_append ops later))

lemma Untold.accounted (h : s.Untold) (ops : List Operation) : s.EndAccounted ops := by
  refine ⟨?_, fun values => ?_, fun values => ?_, fun values => ?_,
    fun hc _ => failsClosed_iff hc⟩
  · rw [Stream.log_end, List.length_map]
    exact length_endNotices_le h ops
  · rw [Stream.mem_log_iff (by simp)]
    simp only [Notice.entry_eq_failed]
    constructor
    · rintro ⟨n, hn, e, k, rfl, rfl⟩
      obtain ⟨herr, rfl⟩ := (failed_mem_iff h).1 hn
      exact ⟨e, herr, rfl⟩
    · rintro ⟨e, herr, rfl⟩
      exact ⟨_, (failed_mem_iff h).2 ⟨herr, rfl⟩, e, _, rfl, rfl⟩
  · rw [Stream.mem_log_iff (by simp)]
    simp only [Notice.entry_eq_exhausted]
    constructor
    · rintro ⟨n, hn, k, rfl, rfl⟩
      obtain ⟨hout, rfl⟩ := (exhausted_mem_iff h).1 hn
      exact ⟨hout, rfl⟩
    · rintro ⟨hout, rfl⟩
      exact ⟨_, (exhausted_mem_iff h).2 ⟨hout, rfl⟩, _, rfl, rfl⟩
  · rw [Stream.mem_log_iff (by simp)]
    simp only [Notice.entry_eq_ignored]
    constructor
    · rintro ⟨n, hn, e, rfl, rfl⟩
      exact ⟨e, (ignored_mem_iff h).1 hn, rfl⟩
    · rintro ⟨e, hfails, rfl⟩
      exact ⟨_, (ignored_mem_iff h).2 hfails, e, rfl, rfl⟩

/-- **The effects of a run.** Take any stream, advanced and closed in any order, and closed during
any reads in between. If it has a closer, each close call sets the mark, gives notice and invokes
the closer, whatever has happened before, and comes back with what the closer comes back with; the
stream counts as closed from the first call on and for ever. Apart from that the stream logs at most
one entry, when it ends, and which one it is goes by what ends it. -/
theorem run_accounted (limits : Limits) (closer : Option Closer) (script : Script)
    (ops : List Operation) :
    let s : Session ρ := .new limits closer script
    (∀ c, closer = some c → s.ClosingsAccounted c ops) ∧ s.EndAccounted ops := by
  intro s
  have huntold : s.Untold := ⟨rfl, rfl⟩
  constructor
  · rintro c rfl
    exact new_closings limits c script ops
  · exact huntold.accounted ops

/-- A stream whose closer fails is closed while its source fails within the second record, and once
more afterwards. -/
theorem run_accounted_failing_closer :
    let stuck : IoError := ⟨.other, "stuck"⟩
    let script : Script := [.data (utf8 "\x7b\x7d\n\x7b\"mess"), .close,
      .fail ⟨.connectionReset, "gone"⟩]
    let s : Session ErrorEvent := .new ⟨15, 3⟩ (some fun _ => .error stuck) script
    let ops : List Operation := [.advance, .advance, .close]
    s.closeCalls ops = 2 ∧ s.closeResults ops = [.error stuck, .error stuck] ∧
      (s.run ops).stream.closings = 2 ∧
      (∀ later, (s.run (ops ++ later)).stream.closed = true) ∧
      s.FailsClosed ops (.read ⟨.connectionReset, "gone"⟩) ∧
      ⟨.debug, "Ignoring error on closed event stream",
        [("error", .text "Failed to read event stream: gone")]⟩ ∈ (s.run ops).stream.log ∧
      (s.run ops).stream.err = none ∧ ¬ s.RunsOut ops := by
  intro stuck script s ops
  obtain ⟨hclosings, hend⟩ := run_accounted (ρ := ErrorEvent) ⟨15, 3⟩
    (some fun _ => .error stuck) script ops
  have hclose := hclosings _ rfl
  have hcalls : s.closeCalls ops = 2 := by decide +kernel
  have hresults := hclose.results
  have hinvocations := hclose.invocations
  rw [hcalls] at hresults hinvocations
  have hclosed := hclose.closed.2 (hcalls ▸ Nat.zero_lt_two)
  -- the second advance is the one during which the stream is closed
  have hfails : s.FailsClosed ops (.read ⟨.connectionReset, "gone"⟩) :=
    (hend.pending (Or.inl (by decide)) _).2 ⟨[.advance], [.close], rfl, by decide +kernel,
      by decide +kernel, by decide +kernel⟩
  refine ⟨hcalls, hresults, hinvocations, hclose.forever hclosed, hfails,
    (hend.ignored _).2 ⟨_, hfails, by decide +kernel⟩, ?_, ?_⟩
  · decide +kernel
  · intro hout
    have hexhausted := (hend.exhausted _).2 ⟨hout, rfl⟩
    exact absurd hexhausted (by decide +kernel)

end Session

end EventLog
