import EventLog.Proofs.Feed.Traffic
import EventLog.Proofs.Stream.Account
import EventLog.Proofs.Stream.Ended
import EventLog.Proofs.Stream.Verdict

/-!
# Reads that are needed

A stream reads only when it has to. Whenever it makes a read, no line feed is among the bytes that
have been delivered since the end of the last line, and there are fewer of them than a line may use
up. So a line that has been delivered is never kept waiting for what comes after it, and a line that
never ends is given up as soon as it leaves no room.

* `Session.traffic`: what passes between a stream and its source in a run.
* `Session.run_moved`: what the traffic of a run does to the stream.
* `Session.reads_needed`: no read of a run is one too many.
-/

namespace EventLog

open Ascii Log

variable {ρ : Type}

/-! ### The reads of a stream -/

namespace Stream

lemma reads_after_read (s : Stream ρ) (o : ReadOutcome) :
    (s.after (.read o)).reads = s.reads ++ [o] :=
  List.reverse_cons

lemma reads_closeTimes (s : Stream ρ) (n : ℕ) : (s.closeTimes n).reads = s.reads := by
  induction n generalizing s with
  | zero => rfl
  | succ n ih => rw [closeTimes, ih, reads_close]

lemma reads_afterReads (s : Stream ρ) (reads : List Read) :
    (reads.foldl afterRead s).reads = s.reads ++ reads.map Read.outcome := by
  induction reads generalizing s with
  | nil => exact (List.append_nil _).symm
  | cons r reads ih =>
    rw [List.foldl_cons, ih, afterRead, reads_after_read, reads_closeTimes, List.append_assoc,
      List.map_cons, List.singleton_append]

lemma reads_obey (s : Stream ρ) (v : Verdict ρ) : (s.obey v).reads = s.reads := by
  cases v with
  | failure e =>
    rw [obey, fail]
    split <;> rfl
  | _ => rfl

lemma fail_not_running (s : Stream ρ) (e : Failure) : (s.fail e).state ≠ .running := by
  rw [fail_eq]
  show (if s.closed then State.exhausted else State.failed e) ≠ State.running
  split <;> simp

/-- Only a line leaves a stream running. -/
lemma settle_running [LogRecord ρ] {s : Stream ρ} {found : Find}
    (h : (s.settle found).2.state = .running) : found = .line := by
  cases found with
  | line => rfl
  | tooLong => exact absurd h (fail_not_running _ _)
  | ended => cases h
  | failed e => exact absurd h (fail_not_running _ _)

lemma stream_of_settle_none [LogRecord ρ] {s : Stream ρ} {found : Find}
    (h : (s.settle found).1 = none) : (s.settle found).2 = s := by
  rw [settle_eq] at h ⊢
  cases hv : (s.feed.verdict found : Verdict ρ) with
  | blank => rfl
  | record value => rw [hv] at h; cases h
  | exhausted => rw [hv] at h; cases h
  | failure e => rw [hv] at h; cases h

end Stream

namespace Session

open Traffic

/-! ### What traffic does to a stream -/

/-- The traffic `ts` leads from one state of a session to another. -/
structure Moved (s : Session ρ) (ts : List Traffic) (t : Session ρ) : Prop where
  limits : t.stream.feed.limits = s.stream.feed.limits
  /-- The reads are those of the stream. -/
  reads : t.stream.reads = s.stream.reads ++ ts.filterMap Traffic.outcome?
  closed : s.stream.closed → t.stream.closed
  /-- A stream that does not run stays as it is. -/
  rests : s.stream.state ≠ .running → ts = [] ∧ t.stream.state = s.stream.state
  /-- A stream that runs has not come to an end. -/
  goes : t.stream.state = .running → ∀ e ∈ ts, ¬ e.Ends
  /-- What is buffered is what is outstanding, and then the traffic is sparing. -/
  sparing : s.stream.feed.limits.window = s.limit + 2 →
    ∀ before, outstanding before = s.stream.feed.buffer →
      Sparing s.limit before ts ∧ outstanding (before ++ ts) = t.stream.feed.buffer
  /-- A line that is too long is a failure, unless the stream has been closed. -/
  tooLong : ∀ raw, .line .tooLong raw ∈ ts →
    t.stream.state = .failed (.lineTooLong s.limit) ∨
      (t.stream.state = .exhausted ∧ t.stream.closed)

/-- Without traffic a stream can at most be closed. -/
lemma Moved.of_same {s t : Session ρ} (hfeed : t.stream.feed = s.stream.feed)
    (hreads : t.stream.reads = s.stream.reads) (hstate : t.stream.state = s.stream.state)
    (hclosed : s.stream.closed → t.stream.closed) : s.Moved [] t where
  limits := congrArg Feed.limits hfeed
  reads := hreads.trans (List.append_nil _).symm
  closed := hclosed
  rests _ := ⟨rfl, hstate⟩
  goes _ e he := absurd he List.not_mem_nil
  sparing _ before hbefore := ⟨.nil, by rw [List.append_nil, hbefore, hfeed]⟩
  tooLong _ h := absurd h List.not_mem_nil

lemma Moved.trans {s t u : Session ρ} {ts us : List Traffic} (h : s.Moved ts t)
    (h' : t.Moved us u) : s.Moved (ts ++ us) u := by
  have hlimit : t.limit = s.limit := congrArg Limits.maxLine h.limits
  have hrunning : u.stream.state = .running → t.stream.state = .running := by
    intro hu
    by_contra ht
    exact ht ((h'.rests ht).2 ▸ hu)
  refine ⟨h'.limits.trans h.limits, ?_, h'.closed ∘ h.closed, fun hs => ?_, fun hu => ?_,
    fun hwindow before hbefore => ?_, fun raw hraw => ?_⟩
  · rw [h'.reads, h.reads, List.filterMap_append, List.append_assoc]
  · obtain ⟨hts, ht⟩ := h.rests hs
    obtain ⟨hus, hu⟩ := h'.rests (ht ▸ hs)
    exact ⟨by rw [hts, hus, List.append_nil], hu.trans ht⟩
  · exact List.forall_mem_append.2 ⟨h.goes (hrunning hu), h'.goes hu⟩
  · obtain ⟨hts, hleft⟩ := h.sparing hwindow before hbefore
    obtain ⟨hus, hleft'⟩ := h'.sparing (by rw [h.limits, hlimit, hwindow]) _ hleft
    rw [hlimit] at hus
    refine ⟨hts.append (fun hne => h.goes ?_) hus, by rw [← List.append_assoc, hleft']⟩
    by_contra ht
    exact hne (h'.rests ht).1
  · rcases List.mem_append.1 hraw with hraw | hraw
    · -- the stream has stopped before the rest
      have ht := h.tooLong raw hraw
      have hstate : u.stream.state = t.stream.state := by
        refine (h'.rests ?_).2
        rcases ht with ht | ⟨ht, -⟩ <;> rw [ht] <;> simp
      rw [hstate]
      exact ht.imp_right fun ⟨hx, hc⟩ => ⟨hx, h'.closed hc⟩
    · rw [← hlimit]
      exact h'.tooLong raw hraw

/-! ### The traffic of a run -/

variable [LogRecord ρ]

/-- What passes between a stream and its source while the stream looks for the next line. -/
def stepTraffic (s : Session ρ) : List Traffic := s.stream.feed.traffic s.script

/-- What passes between them while the stream looks for a record. -/
def seekTraffic (s : Session ρ) : List Traffic :=
  match _h : s.step with
  | (some _, _) => s.stepTraffic
  | (none, t) => s.stepTraffic ++ t.seekTraffic
termination_by s.size
decreasing_by
  have h := step_size (s := s)
  rw [_h] at h
  exact h nofun

lemma seekTraffic_some {s t : Session ρ} {more : Bool} (h : s.step = (some more, t)) :
    s.seekTraffic = s.stepTraffic := by
  rw [seekTraffic, h]

lemma seekTraffic_none {s t : Session ρ} (h : s.step = (none, t)) :
    s.seekTraffic = s.stepTraffic ++ t.seekTraffic := by
  rw [seekTraffic, h]

/-- What passes between them because of an operation. -/
def performTraffic (s : Session ρ) : Operation → List Traffic
  | .advance => if s.stream.isOpen then s.seekTraffic else []
  | .close => []

/-- What passes between them in a run. -/
def traffic (s : Session ρ) : List Operation → List Traffic
  | [] => []
  | op :: ops => s.performTraffic op ++ (s.perform op).traffic ops

/-- **The search for a line.** -/
lemma step_moved {s : Session ρ} (hs : s.stream.state = .running) :
    s.Moved s.stepTraffic s.step.2 := by
  have hkept := s.step_kept
  have hfeed : s.step.2.stream.feed = s.search.feed := Stream.settle_feed _ _
  refine ⟨hkept.limits, ?_, fun hclosed => ?_, (absurd hs ·), fun hrun => ?_,
    fun hwindow before hbefore => ?_, fun raw hraw => ?_⟩
  · have hreads : s.step.2.stream.reads = s.searched.reads := by
      rw [step_eq, Stream.settle_eq, Stream.reads_obey]
    rw [hreads, stepTraffic, Feed.traffic, Feed.Search.outcomes_traffic]
    exact Stream.reads_afterReads s.stream s.search.reads
  · rw [hkept.closed, hclosed, Bool.true_or]
  · have hline : s.search.find = .line := Stream.settle_running hrun
    exact Feed.Search.not_ends hline _
  · rw [hfeed]
    exact Feed.next_sparing s.stream.feed s.script hwindow hbefore
  · have hlong : s.search.find = .tooLong := (Feed.Search.line_mem_traffic.1 hraw).1.symm
    have hlimit : s.searched.feed.limits.maxLine = s.limit :=
      congrArg Limits.maxLine (Feed.next_limits s.stream.feed s.script)
    have hstream : s.step.2.stream = s.searched.fail (.lineTooLong s.limit) := by
      rw [step_eq, hlong, ← hlimit]
      rfl
    rw [hstream, Stream.fail_eq]
    cases s.searched.closed with
    | false => exact Or.inl rfl
    | true => exact Or.inr ⟨rfl, rfl⟩

lemma seek_moved {s : Session ρ} (hs : s.stream.state = .running) :
    s.Moved s.seekTraffic s.seek.2 := by
  fun_induction seek s with
  | case1 s more t ht =>
    have h := step_moved hs
    rw [ht] at h
    rw [seekTraffic_some ht]
    exact h
  | case2 s t ht ih =>
    have h := step_moved hs
    rw [ht] at h
    rw [seekTraffic_none ht]
    have hnone : (s.searched.settle s.search.find).1 = none := congrArg Prod.fst ht
    have hstream : t.stream = s.searched := by
      rw [← Stream.stream_of_settle_none hnone]
      exact congrArg (fun p => p.2.stream) ht.symm
    exact h.trans (ih (hstream ▸ s.searched_closings.state.trans hs))

lemma perform_moved (s : Session ρ) (op : Operation) :
    s.Moved (s.performTraffic op) (s.perform op) := by
  cases op with
  | advance =>
    by_cases hopen : s.stream.isOpen
    · rw [performTraffic, if_pos hopen, perform, advance_of_open hopen]
      exact seek_moved (running_of_open hopen).1
    · rw [performTraffic, if_neg hopen, perform_advance_of_not_open hopen]
      exact .of_same rfl rfl rfl id
  | close =>
    have h := s.close_closings
    refine .of_same h.feed (Stream.reads_close s.stream) h.state fun hclosed => ?_
    rw [perform, h.closed, hclosed, Bool.true_or]

/-- **The traffic of a run.** -/
theorem run_moved (s : Session ρ) (ops : List Operation) : s.Moved (s.traffic ops) (s.run ops) := by
  induction ops generalizing s with
  | nil => exact .of_same rfl rfl rfl id
  | cons op ops ih => exact (s.perform_moved op).trans (ih (s.perform op))

/-! ### Every read is needed -/

/-- The last thing that a search does is to use up bytes. -/
lemma seekTraffic_answered (s : Session ρ) :
    ∃ ts find raw, s.seekTraffic = ts ++ [.line find raw] := by
  fun_induction seek s with
  | case1 s more t ht =>
    rw [seekTraffic_some ht]
    exact ⟨_, _, _, rfl⟩
  | case2 s t ht ih =>
    obtain ⟨ts, find, raw, hts⟩ := ih
    rw [seekTraffic_none ht, hts, ← List.append_assoc]
    exact ⟨_, _, _, rfl⟩

/-- The traffic that has led to a session has no read too many in it, if lines have a limit. -/
structure Frugal (limit : ℕ) (traffic : List Traffic) (t : Session ρ) : Prop where
  /-- It tells all reads that the stream has made. -/
  reads : t.stream.reads = traffic.filterMap Traffic.outcome?
  /-- Whenever there is a read, no line feed is outstanding, and fewer bytes are than a line may use
  up. -/
  needed : ∀ before o after, traffic = before ++ .read o :: after →
    lineFeed ∉ outstanding before ∧ (outstanding before).length < limit + 2
  /-- A line whose line feed is outstanding is used up before anything else happens. -/
  prompt : ∀ before e after l more, traffic = before ++ e :: after →
    outstanding before = l ++ lineFeed :: more → lineFeed ∉ l → l.length < limit + 2 →
      e = .line (if limit < (chomp l).length then .tooLong else .line) (l ++ [lineFeed])
  /-- A line that leaves no room is too long before anything else happens, and the last. -/
  endless : ∀ before e after l more, traffic = before ++ e :: after →
    outstanding before = l ++ more → lineFeed ∉ l → l.length = limit + 2 →
      e = .line .tooLong l ∧ after = []
  /-- A line that is too long is what the stream has failed with, unless it has been closed. -/
  tooLong : ∀ raw, .line .tooLong raw ∈ traffic →
    t.stream.err = some (.lineTooLong limit) ∨ (t.stream.err = none ∧ t.stream.closed)
  /-- What is used up is the front of what is outstanding and not longer than a line may be. It is
  all that is outstanding if it is neither a line with its line feed nor leaves no room, and then
  the read before has brought nothing. -/
  used : ∀ before find raw after, traffic = before ++ .line find raw :: after →
    raw <+: outstanding before ∧ raw.length ≤ limit + 2 ∧
      (raw.getLast? = some lineFeed ∨ raw.length = limit + 2 ∨
        (raw = outstanding before ∧ ∃ o, before.getLast? = some (.read o) ∧ o.bytes = []))
  /-- The line that the stream shows is not longer either. -/
  line : t.stream.bytes.length ≤ limit + 2
  /-- A search does not stop after a read. -/
  answered : t.stream.isOpen → ∃ ts find raw, t.traffic [.advance] = ts ++ [.line find raw]

/-- **No read is one too many.** In every run of a stream, whatever its source does and however
often it is closed, a read is made only while the bytes that have been delivered since the end of
the last line have no line feed in them and are fewer than a line may use up. -/
theorem reads_needed (limits : Limits) (closer : Option Closer) (script : Script)
    (ops : List Operation) (hlimit : limits.maxLine + 2 ≤ 0xFFFFFFFFFFFFFFFF) :
    let s : Session ρ := .new limits closer script
    Frugal limits.maxLine (s.traffic ops) (s.run ops) := by
  intro s
  have hwindow : limits.window = limits.maxLine + 2 := Nat.min_eq_left hlimit
  have hmoved := s.run_moved ops
  obtain ⟨hsparing, -⟩ := hmoved.sparing hwindow [] rfl
  have hdue : ∀ {before e after}, s.traffic ops = before ++ e :: after →
      Due limits.maxLine before e ∧ (e.Ends → after = []) := by
    intro before e after hsplit
    have hsparing : Sparing limits.maxLine [] (s.traffic ops) := hsparing
    rw [hsplit] at hsparing
    exact hsparing.due
  refine ⟨hmoved.reads, fun before o after hsplit => ?_,
    fun before e after l more hsplit hout hfree hroom => ?_,
    fun before e after l more hsplit hout hfree hlength => ?_, fun raw hraw => ?_,
    fun before find raw after hsplit => ?_, ?_, fun hopen => ?_⟩
  · cases (hdue hsplit).1 with
    | read free room => exact ⟨free, room⟩
  · exact (hdue hsplit).1.of_terminated hout hfree hroom
  · obtain ⟨hdue, hlast⟩ := hdue hsplit
    obtain rfl := hdue.of_full hout hfree hlength
    exact ⟨rfl, hlast (by simp [Traffic.Ends])⟩
  · rcases hmoved.tooLong raw hraw with hstate | ⟨hstate, hclosed⟩
    · exact Or.inl (by rw [Stream.err, hstate]; rfl)
    · exact Or.inr ⟨by rw [Stream.err, hstate], hclosed⟩
  · cases (hdue hsplit).1 with
    | @line l more split free room =>
      refine ⟨⟨more, by rw [split]; simp⟩, ?_, Or.inl List.getLast?_concat⟩
      rw [List.length_append, List.length_singleton]
      exact room
    | @full l more split free length =>
      exact ⟨⟨more, split.symm⟩, length.le, Or.inr (Or.inl length)⟩
    | @rest o find free room read nothing =>
      exact ⟨List.prefix_rfl, room.le, Or.inr (Or.inr ⟨rfl, o, read, nothing⟩)⟩
  · have hlength := (run_consistent (ρ := ρ) limits closer script ops).length
    have hlimits : (s.run ops).limit = limits.maxLine := congrArg Limits.maxLine (s.run_limits ops)
    rwa [hlimits] at hlength
  · have htraffic : (s.run ops).traffic [.advance] = (s.run ops).seekTraffic := by
      rw [traffic, traffic, performTraffic, if_pos hopen, List.append_nil]
    rw [htraffic]
    exact seekTraffic_answered _

/-- Two lines and a third that leaves no room, from reads of four bytes each. -/
theorem reads_needed_endless :
    let s : Session ErrorEvent := .new ⟨4, 64⟩ none [.data (utf8 "\x7b\x7d\n\x7b\x7d\nabcdefgh")]
    let t := s.run [.advance, .advance, .advance]
    let traffic : List Traffic :=
      [.read (.data (utf8 "\x7b\x7d\n\x7b")), .line .line (utf8 "\x7b\x7d\n"),
        .read (.data (utf8 "\x7d\nab")), .line .line (utf8 "\x7b\x7d\n"),
        .read (.data (utf8 "cdef")), .line .tooLong (utf8 "abcdef")]
    t.stream.reads = traffic.filterMap Traffic.outcome? ∧
      t.stream.err = some (.lineTooLong 4) ∧ t.intoSource = utf8 "gh" := by
  intro s t traffic
  have htraffic : s.traffic [.advance, .advance, .advance] = traffic := by decide +kernel
  have hfrugal : t.Frugal 4 (s.traffic [.advance, .advance, .advance]) :=
    reads_needed (ρ := ErrorEvent) ⟨4, 64⟩ none [.data (utf8 "\x7b\x7d\n\x7b\x7d\nabcdefgh")]
      [.advance, .advance, .advance] (by decide)
  rw [htraffic] at hfrugal
  have hclosed : ¬ t.stream.closed := by decide +kernel
  have herr := hfrugal.tooLong (utf8 "abcdef") (by simp [traffic])
  exact ⟨hfrugal.reads, herr.resolve_right fun h => hclosed h.2, by decide +kernel⟩

end Session

end EventLog
